import Foldmark.Text.CharSet

/-! Characters that differ in case only. -/
namespace Foldmark.CaseFold

/-- The classes of characters that simple case folding identifies, as joined code points in
hexadecimal digits. -/
def table : String := " ".intercalate [
  "0041-0061 0042-0062 0043-0063 0044-0064 0045-0065 0046-0066 0047-0067 0048-0068 0049-0069",
  "004A-006A 004B-006B-212A 004C-006C 004D-006D 004E-006E 004F-006F 0050-0070 0051-0071",
  "0052-0072 0053-0073-017F 0054-0074 0055-0075 0056-0076 0057-0077 0058-0078 0059-0079",
  "005A-007A 00B5-039C-03BC 00C0-00E0 00C1-00E1 00C2-00E2 00C3-00E3 00C4-00E4 00C5-00E5-212B",
  "00C6-00E6 00C7-00E7 00C8-00E8 00C9-00E9 00CA-00EA 00CB-00EB 00CC-00EC 00CD-00ED 00CE-00EE",
  "00CF-00EF 00D0-00F0 00D1-00F1 00D2-00F2 00D3-00F3 00D4-00F4 00D5-00F5 00D6-00F6 00D8-00F8",
  "00D9-00F9 00DA-00FA 00DB-00FB 00DC-00FC 00DD-00FD 00DE-00FE 00DF-1E9E 00FF-0178 0100-0101",
  "0102-0103 0104-0105 0106-0107 0108-0109 010A-010B 010C-010D 010E-010F 0110-0111 0112-0113",
  "0114-0115 0116-0117 0118-0119 011A-011B 011C-011D 011E-011F 0120-0121 0122-0123 0124-0125",
  "0126-0127 0128-0129 012A-012B 012C-012D 012E-012F 0132-0133 0134-0135 0136-0137 0139-013A",
  "013B-013C 013D-013E 013F-0140 0141-0142 0143-0144 0145-0146 0147-0148 014A-014B 014C-014D",
  "014E-014F 0150-0151 0152-0153 0154-0155 0156-0157 0158-0159 015A-015B 015C-015D 015E-015F",
  "0160-0161 0162-0163 0164-0165 0166-0167 0168-0169 016A-016B 016C-016D 016E-016F 0170-0171",
  "0172-0173 0174-0175 0176-0177 0179-017A 017B-017C 017D-017E 0180-0243 0181-0253 0182-0183",
  "0184-0185 0186-0254 0187-0188 0189-0256 018A-0257 018B-018C 018E-01DD 018F-0259 0190-025B",
  "0191-0192 0193-0260 0194-0263 0195-01F6 0196-0269 0197-0268 0198-0199 019A-023D 019B-A7DC",
  "019C-026F 019D-0272 019E-0220 019F-0275 01A0-01A1 01A2-01A3 01A4-01A5 01A6-0280 01A7-01A8",
  "01A9-0283 01AC-01AD 01AE-0288 01AF-01B0 01B1-028A 01B2-028B 01B3-01B4 01B5-01B6 01B7-0292",
  "01B8-01B9 01BC-01BD 01BF-01F7 01C4-01C5-01C6 01C7-01C8-01C9 01CA-01CB-01CC 01CD-01CE",
  "01CF-01D0 01D1-01D2 01D3-01D4 01D5-01D6 01D7-01D8 01D9-01DA 01DB-01DC 01DE-01DF 01E0-01E1",
  "01E2-01E3 01E4-01E5 01E6-01E7 01E8-01E9 01EA-01EB 01EC-01ED 01EE-01EF 01F1-01F2-01F3",
  "01F4-01F5 01F8-01F9 01FA-01FB 01FC-01FD 01FE-01FF 0200-0201 0202-0203 0204-0205 0206-0207",
  "0208-0209 020A-020B 020C-020D 020E-020F 0210-0211 0212-0213 0214-0215 0216-0217 0218-0219",
  "021A-021B 021C-021D 021E-021F 0222-0223 0224-0225 0226-0227 0228-0229 022A-022B 022C-022D",
  "022E-022F 0230-0231 0232-0233 023A-2C65 023B-023C 023E-2C66 023F-2C7E 0240-2C7F 0241-0242",
  "0244-0289 0245-028C 0246-0247 0248-0249 024A-024B 024C-024D 024E-024F 0250-2C6F 0251-2C6D",
  "0252-2C70 025C-A7AB 0261-A7AC 0264-A7CB 0265-A78D 0266-A7AA 026A-A7AE 026B-2C62 026C-A7AD",
  "0271-2C6E 027D-2C64 0282-A7C5 0287-A7B1 029D-A7B2 029E-A7B0 0345-0399-03B9-1FBE 0370-0371",
  "0372-0373 0376-0377 037B-03FD 037C-03FE 037D-03FF 037F-03F3 0386-03AC 0388-03AD 0389-03AE",
  "038A-03AF 038C-03CC 038E-03CD 038F-03CE 0390-1FD3 0391-03B1 0392-03B2-03D0 0393-03B3",
  "0394-03B4 0395-03B5-03F5 0396-03B6 0397-03B7 0398-03B8-03D1-03F4 039A-03BA-03F0 039B-03BB",
  "039D-03BD 039E-03BE 039F-03BF 03A0-03C0-03D6 03A1-03C1-03F1 03A3-03C2-03C3 03A4-03C4",
  "03A5-03C5 03A6-03C6-03D5 03A7-03C7 03A8-03C8 03A9-03C9-2126 03AA-03CA 03AB-03CB 03B0-1FE3",
  "03CF-03D7 03D8-03D9 03DA-03DB 03DC-03DD 03DE-03DF 03E0-03E1 03E2-03E3 03E4-03E5 03E6-03E7",
  "03E8-03E9 03EA-03EB 03EC-03ED 03EE-03EF 03F2-03F9 03F7-03F8 03FA-03FB 0400-0450 0401-0451",
  "0402-0452 0403-0453 0404-0454 0405-0455 0406-0456 0407-0457 0408-0458 0409-0459 040A-045A",
  "040B-045B 040C-045C 040D-045D 040E-045E 040F-045F 0410-0430 0411-0431 0412-0432-1C80",
  "0413-0433 0414-0434-1C81 0415-0435 0416-0436 0417-0437 0418-0438 0419-0439 041A-043A",
  "041B-043B 041C-043C 041D-043D 041E-043E-1C82 041F-043F 0420-0440 0421-0441-1C83",
  "0422-0442-1C84-1C85 0423-0443 0424-0444 0425-0445 0426-0446 0427-0447 0428-0448 0429-0449",
  "042A-044A-1C86 042B-044B 042C-044C 042D-044D 042E-044E 042F-044F 0460-0461 0462-0463-1C87",
  "0464-0465 0466-0467 0468-0469 046A-046B 046C-046D 046E-046F 0470-0471 0472-0473 0474-0475",
  "0476-0477 0478-0479 047A-047B 047C-047D 047E-047F 0480-0481 048A-048B 048C-048D 048E-048F",
  "0490-0491 0492-0493 0494-0495 0496-0497 0498-0499 049A-049B 049C-049D 049E-049F 04A0-04A1",
  "04A2-04A3 04A4-04A5 04A6-04A7 04A8-04A9 04AA-04AB 04AC-04AD 04AE-04AF 04B0-04B1 04B2-04B3",
  "04B4-04B5 04B6-04B7 04B8-04B9 04BA-04BB 04BC-04BD 04BE-04BF 04C0-04CF 04C1-04C2 04C3-04C4",
  "04C5-04C6 04C7-04C8 04C9-04CA 04CB-04CC 04CD-04CE 04D0-04D1 04D2-04D3 04D4-04D5 04D6-04D7",
  "04D8-04D9 04DA-04DB 04DC-04DD 04DE-04DF 04E0-04E1 04E2-04E3 04E4-04E5 04E6-04E7 04E8-04E9",
  "04EA-04EB 04EC-04ED 04EE-04EF 04F0-04F1 04F2-04F3 04F4-04F5 04F6-04F7 04F8-04F9 04FA-04FB",
  "04FC-04FD 04FE-04FF 0500-0501 0502-0503 0504-0505 0506-0507 0508-0509 050A-050B 050C-050D",
  "050E-050F 0510-0511 0512-0513 0514-0515 0516-0517 0518-0519 051A-051B 051C-051D 051E-051F",
  "0520-0521 0522-0523 0524-0525 0526-0527 0528-0529 052A-052B 052C-052D 052E-052F 0531-0561",
  "0532-0562 0533-0563 0534-0564 0535-0565 0536-0566 0537-0567 0538-0568 0539-0569 053A-056A",
  "053B-056B 053C-056C 053D-056D 053E-056E 053F-056F 0540-0570 0541-0571 0542-0572 0543-0573",
  "0544-0574 0545-0575 0546-0576 0547-0577 0548-0578 0549-0579 054A-057A 054B-057B 054C-057C",
  "054D-057D 054E-057E 054F-057F 0550-0580 0551-0581 0552-0582 0553-0583 0554-0584 0555-0585",
  "0556-0586 10A0-2D00 10A1-2D01 10A2-2D02 10A3-2D03 10A4-2D04 10A5-2D05 10A6-2D06 10A7-2D07",
  "10A8-2D08 10A9-2D09 10AA-2D0A 10AB-2D0B 10AC-2D0C 10AD-2D0D 10AE-2D0E 10AF-2D0F 10B0-2D10",
  "10B1-2D11 10B2-2D12 10B3-2D13 10B4-2D14 10B5-2D15 10B6-2D16 10B7-2D17 10B8-2D18 10B9-2D19",
  "10BA-2D1A 10BB-2D1B 10BC-2D1C 10BD-2D1D 10BE-2D1E 10BF-2D1F 10C0-2D20 10C1-2D21 10C2-2D22",
  "10C3-2D23 10C4-2D24 10C5-2D25 10C7-2D27 10CD-2D2D 10D0-1C90 10D1-1C91 10D2-1C92 10D3-1C93",
  "10D4-1C94 10D5-1C95 10D6-1C96 10D7-1C97 10D8-1C98 10D9-1C99 10DA-1C9A 10DB-1C9B 10DC-1C9C",
  "10DD-1C9D 10DE-1C9E 10DF-1C9F 10E0-1CA0 10E1-1CA1 10E2-1CA2 10E3-1CA3 10E4-1CA4 10E5-1CA5",
  "10E6-1CA6 10E7-1CA7 10E8-1CA8 10E9-1CA9 10EA-1CAA 10EB-1CAB 10EC-1CAC 10ED-1CAD 10EE-1CAE",
  "10EF-1CAF 10F0-1CB0 10F1-1CB1 10F2-1CB2 10F3-1CB3 10F4-1CB4 10F5-1CB5 10F6-1CB6 10F7-1CB7",
  "10F8-1CB8 10F9-1CB9 10FA-1CBA 10FD-1CBD 10FE-1CBE 10FF-1CBF 13A0-AB70 13A1-AB71 13A2-AB72",
  "13A3-AB73 13A4-AB74 13A5-AB75 13A6-AB76 13A7-AB77 13A8-AB78 13A9-AB79 13AA-AB7A 13AB-AB7B",
  "13AC-AB7C 13AD-AB7D 13AE-AB7E 13AF-AB7F 13B0-AB80 13B1-AB81 13B2-AB82 13B3-AB83 13B4-AB84",
  "13B5-AB85 13B6-AB86 13B7-AB87 13B8-AB88 13B9-AB89 13BA-AB8A 13BB-AB8B 13BC-AB8C 13BD-AB8D",
  "13BE-AB8E 13BF-AB8F 13C0-AB90 13C1-AB91 13C2-AB92 13C3-AB93 13C4-AB94 13C5-AB95 13C6-AB96",
  "13C7-AB97 13C8-AB98 13C9-AB99 13CA-AB9A 13CB-AB9B 13CC-AB9C 13CD-AB9D 13CE-AB9E 13CF-AB9F",
  "13D0-ABA0 13D1-ABA1 13D2-ABA2 13D3-ABA3 13D4-ABA4 13D5-ABA5 13D6-ABA6 13D7-ABA7 13D8-ABA8",
  "13D9-ABA9 13DA-ABAA 13DB-ABAB 13DC-ABAC 13DD-ABAD 13DE-ABAE 13DF-ABAF 13E0-ABB0 13E1-ABB1",
  "13E2-ABB2 13E3-ABB3 13E4-ABB4 13E5-ABB5 13E6-ABB6 13E7-ABB7 13E8-ABB8 13E9-ABB9 13EA-ABBA",
  "13EB-ABBB 13EC-ABBC 13ED-ABBD 13EE-ABBE 13EF-ABBF 13F0-13F8 13F1-13F9 13F2-13FA 13F3-13FB",
  "13F4-13FC 13F5-13FD 1C88-A64A-A64B 1C89-1C8A 1D79-A77D 1D7D-2C63 1D8E-A7C6 1E00-1E01",
  "1E02-1E03 1E04-1E05 1E06-1E07 1E08-1E09 1E0A-1E0B 1E0C-1E0D 1E0E-1E0F 1E10-1E11 1E12-1E13",
  "1E14-1E15 1E16-1E17 1E18-1E19 1E1A-1E1B 1E1C-1E1D 1E1E-1E1F 1E20-1E21 1E22-1E23 1E24-1E25",
  "1E26-1E27 1E28-1E29 1E2A-1E2B 1E2C-1E2D 1E2E-1E2F 1E30-1E31 1E32-1E33 1E34-1E35 1E36-1E37",
  "1E38-1E39 1E3A-1E3B 1E3C-1E3D 1E3E-1E3F 1E40-1E41 1E42-1E43 1E44-1E45 1E46-1E47 1E48-1E49",
  "1E4A-1E4B 1E4C-1E4D 1E4E-1E4F 1E50-1E51 1E52-1E53 1E54-1E55 1E56-1E57 1E58-1E59 1E5A-1E5B",
  "1E5C-1E5D 1E5E-1E5F 1E60-1E61-1E9B 1E62-1E63 1E64-1E65 1E66-1E67 1E68-1E69 1E6A-1E6B",
  "1E6C-1E6D 1E6E-1E6F 1E70-1E71 1E72-1E73 1E74-1E75 1E76-1E77 1E78-1E79 1E7A-1E7B 1E7C-1E7D",
  "1E7E-1E7F 1E80-1E81 1E82-1E83 1E84-1E85 1E86-1E87 1E88-1E89 1E8A-1E8B 1E8C-1E8D 1E8E-1E8F",
  "1E90-1E91 1E92-1E93 1E94-1E95 1EA0-1EA1 1EA2-1EA3 1EA4-1EA5 1EA6-1EA7 1EA8-1EA9 1EAA-1EAB",
  "1EAC-1EAD 1EAE-1EAF 1EB0-1EB1 1EB2-1EB3 1EB4-1EB5 1EB6-1EB7 1EB8-1EB9 1EBA-1EBB 1EBC-1EBD",
  "1EBE-1EBF 1EC0-1EC1 1EC2-1EC3 1EC4-1EC5 1EC6-1EC7 1EC8-1EC9 1ECA-1ECB 1ECC-1ECD 1ECE-1ECF",
  "1ED0-1ED1 1ED2-1ED3 1ED4-1ED5 1ED6-1ED7 1ED8-1ED9 1EDA-1EDB 1EDC-1EDD 1EDE-1EDF 1EE0-1EE1",
  "1EE2-1EE3 1EE4-1EE5 1EE6-1EE7 1EE8-1EE9 1EEA-1EEB 1EEC-1EED 1EEE-1EEF 1EF0-1EF1 1EF2-1EF3",
  "1EF4-1EF5 1EF6-1EF7 1EF8-1EF9 1EFA-1EFB 1EFC-1EFD 1EFE-1EFF 1F00-1F08 1F01-1F09 1F02-1F0A",
  "1F03-1F0B 1F04-1F0C 1F05-1F0D 1F06-1F0E 1F07-1F0F 1F10-1F18 1F11-1F19 1F12-1F1A 1F13-1F1B",
  "1F14-1F1C 1F15-1F1D 1F20-1F28 1F21-1F29 1F22-1F2A 1F23-1F2B 1F24-1F2C 1F25-1F2D 1F26-1F2E",
  "1F27-1F2F 1F30-1F38 1F31-1F39 1F32-1F3A 1F33-1F3B 1F34-1F3C 1F35-1F3D 1F36-1F3E 1F37-1F3F",
  "1F40-1F48 1F41-1F49 1F42-1F4A 1F43-1F4B 1F44-1F4C 1F45-1F4D 1F51-1F59 1F53-1F5B 1F55-1F5D",
  "1F57-1F5F 1F60-1F68 1F61-1F69 1F62-1F6A 1F63-1F6B 1F64-1F6C 1F65-1F6D 1F66-1F6E 1F67-1F6F",
  "1F70-1FBA 1F71-1FBB 1F72-1FC8 1F73-1FC9 1F74-1FCA 1F75-1FCB 1F76-1FDA 1F77-1FDB 1F78-1FF8",
  "1F79-1FF9 1F7A-1FEA 1F7B-1FEB 1F7C-1FFA 1F7D-1FFB 1F80-1F88 1F81-1F89 1F82-1F8A 1F83-1F8B",
  "1F84-1F8C 1F85-1F8D 1F86-1F8E 1F87-1F8F 1F90-1F98 1F91-1F99 1F92-1F9A 1F93-1F9B 1F94-1F9C",
  "1F95-1F9D 1F96-1F9E 1F97-1F9F 1FA0-1FA8 1FA1-1FA9 1FA2-1FAA 1FA3-1FAB 1FA4-1FAC 1FA5-1FAD",
  "1FA6-1FAE 1FA7-1FAF 1FB0-1FB8 1FB1-1FB9 1FB3-1FBC 1FC3-1FCC 1FD0-1FD8 1FD1-1FD9 1FE0-1FE8",
  "1FE1-1FE9 1FE5-1FEC 1FF3-1FFC 2132-214E 2160-2170 2161-2171 2162-2172 2163-2173 2164-2174",
  "2165-2175 2166-2176 2167-2177 2168-2178 2169-2179 216A-217A 216B-217B 216C-217C 216D-217D",
  "216E-217E 216F-217F 2183-2184 24B6-24D0 24B7-24D1 24B8-24D2 24B9-24D3 24BA-24D4 24BB-24D5",
  "24BC-24D6 24BD-24D7 24BE-24D8 24BF-24D9 24C0-24DA 24C1-24DB 24C2-24DC 24C3-24DD 24C4-24DE",
  "24C5-24DF 24C6-24E0 24C7-24E1 24C8-24E2 24C9-24E3 24CA-24E4 24CB-24E5 24CC-24E6 24CD-24E7",
  "24CE-24E8 24CF-24E9 2C00-2C30 2C01-2C31 2C02-2C32 2C03-2C33 2C04-2C34 2C05-2C35 2C06-2C36",
  "2C07-2C37 2C08-2C38 2C09-2C39 2C0A-2C3A 2C0B-2C3B 2C0C-2C3C 2C0D-2C3D 2C0E-2C3E 2C0F-2C3F",
  "2C10-2C40 2C11-2C41 2C12-2C42 2C13-2C43 2C14-2C44 2C15-2C45 2C16-2C46 2C17-2C47 2C18-2C48",
  "2C19-2C49 2C1A-2C4A 2C1B-2C4B 2C1C-2C4C 2C1D-2C4D 2C1E-2C4E 2C1F-2C4F 2C20-2C50 2C21-2C51",
  "2C22-2C52 2C23-2C53 2C24-2C54 2C25-2C55 2C26-2C56 2C27-2C57 2C28-2C58 2C29-2C59 2C2A-2C5A",
  "2C2B-2C5B 2C2C-2C5C 2C2D-2C5D 2C2E-2C5E 2C2F-2C5F 2C60-2C61 2C67-2C68 2C69-2C6A 2C6B-2C6C",
  "2C72-2C73 2C75-2C76 2C80-2C81 2C82-2C83 2C84-2C85 2C86-2C87 2C88-2C89 2C8A-2C8B 2C8C-2C8D",
  "2C8E-2C8F 2C90-2C91 2C92-2C93 2C94-2C95 2C96-2C97 2C98-2C99 2C9A-2C9B 2C9C-2C9D 2C9E-2C9F",
  "2CA0-2CA1 2CA2-2CA3 2CA4-2CA5 2CA6-2CA7 2CA8-2CA9 2CAA-2CAB 2CAC-2CAD 2CAE-2CAF 2CB0-2CB1",
  "2CB2-2CB3 2CB4-2CB5 2CB6-2CB7 2CB8-2CB9 2CBA-2CBB 2CBC-2CBD 2CBE-2CBF 2CC0-2CC1 2CC2-2CC3",
  "2CC4-2CC5 2CC6-2CC7 2CC8-2CC9 2CCA-2CCB 2CCC-2CCD 2CCE-2CCF 2CD0-2CD1 2CD2-2CD3 2CD4-2CD5",
  "2CD6-2CD7 2CD8-2CD9 2CDA-2CDB 2CDC-2CDD 2CDE-2CDF 2CE0-2CE1 2CE2-2CE3 2CEB-2CEC 2CED-2CEE",
  "2CF2-2CF3 A640-A641 A642-A643 A644-A645 A646-A647 A648-A649 A64C-A64D A64E-A64F A650-A651",
  "A652-A653 A654-A655 A656-A657 A658-A659 A65A-A65B A65C-A65D A65E-A65F A660-A661 A662-A663",
  "A664-A665 A666-A667 A668-A669 A66A-A66B A66C-A66D A680-A681 A682-A683 A684-A685 A686-A687",
  "A688-A689 A68A-A68B A68C-A68D A68E-A68F A690-A691 A692-A693 A694-A695 A696-A697 A698-A699",
  "A69A-A69B A722-A723 A724-A725 A726-A727 A728-A729 A72A-A72B A72C-A72D A72E-A72F A732-A733",
  "A734-A735 A736-A737 A738-A739 A73A-A73B A73C-A73D A73E-A73F A740-A741 A742-A743 A744-A745",
  "A746-A747 A748-A749 A74A-A74B A74C-A74D A74E-A74F A750-A751 A752-A753 A754-A755 A756-A757",
  "A758-A759 A75A-A75B A75C-A75D A75E-A75F A760-A761 A762-A763 A764-A765 A766-A767 A768-A769",
  "A76A-A76B A76C-A76D A76E-A76F A779-A77A A77B-A77C A77E-A77F A780-A781 A782-A783 A784-A785",
  "A786-A787 A78B-A78C A790-A791 A792-A793 A794-A7C4 A796-A797 A798-A799 A79A-A79B A79C-A79D",
  "A79E-A79F A7A0-A7A1 A7A2-A7A3 A7A4-A7A5 A7A6-A7A7 A7A8-A7A9 A7B3-AB53 A7B4-A7B5 A7B6-A7B7",
  "A7B8-A7B9 A7BA-A7BB A7BC-A7BD A7BE-A7BF A7C0-A7C1 A7C2-A7C3 A7C7-A7C8 A7C9-A7CA A7CC-A7CD",
  "A7D0-A7D1 A7D6-A7D7 A7D8-A7D9 A7DA-A7DB A7F5-A7F6 FB05-FB06 FF21-FF41 FF22-FF42 FF23-FF43",
  "FF24-FF44 FF25-FF45 FF26-FF46 FF27-FF47 FF28-FF48 FF29-FF49 FF2A-FF4A FF2B-FF4B FF2C-FF4C",
  "FF2D-FF4D FF2E-FF4E FF2F-FF4F FF30-FF50 FF31-FF51 FF32-FF52 FF33-FF53 FF34-FF54 FF35-FF55",
  "FF36-FF56 FF37-FF57 FF38-FF58 FF39-FF59 FF3A-FF5A 10400-10428 10401-10429 10402-1042A",
  "10403-1042B 10404-1042C 10405-1042D 10406-1042E 10407-1042F 10408-10430 10409-10431",
  "1040A-10432 1040B-10433 1040C-10434 1040D-10435 1040E-10436 1040F-10437 10410-10438",
  "10411-10439 10412-1043A 10413-1043B 10414-1043C 10415-1043D 10416-1043E 10417-1043F",
  "10418-10440 10419-10441 1041A-10442 1041B-10443 1041C-10444 1041D-10445 1041E-10446",
  "1041F-10447 10420-10448 10421-10449 10422-1044A 10423-1044B 10424-1044C 10425-1044D",
  "10426-1044E 10427-1044F 104B0-104D8 104B1-104D9 104B2-104DA 104B3-104DB 104B4-104DC",
  "104B5-104DD 104B6-104DE 104B7-104DF 104B8-104E0 104B9-104E1 104BA-104E2 104BB-104E3",
  "104BC-104E4 104BD-104E5 104BE-104E6 104BF-104E7 104C0-104E8 104C1-104E9 104C2-104EA",
  "104C3-104EB 104C4-104EC 104C5-104ED 104C6-104EE 104C7-104EF 104C8-104F0 104C9-104F1",
  "104CA-104F2 104CB-104F3 104CC-104F4 104CD-104F5 104CE-104F6 104CF-104F7 104D0-104F8",
  "104D1-104F9 104D2-104FA 104D3-104FB 10570-10597 10571-10598 10572-10599 10573-1059A",
  "10574-1059B 10575-1059C 10576-1059D 10577-1059E 10578-1059F 10579-105A0 1057A-105A1",
  "1057C-105A3 1057D-105A4 1057E-105A5 1057F-105A6 10580-105A7 10581-105A8 10582-105A9",
  "10583-105AA 10584-105AB 10585-105AC 10586-105AD 10587-105AE 10588-105AF 10589-105B0",
  "1058A-105B1 1058C-105B3 1058D-105B4 1058E-105B5 1058F-105B6 10590-105B7 10591-105B8",
  "10592-105B9 10594-105BB 10595-105BC 10C80-10CC0 10C81-10CC1 10C82-10CC2 10C83-10CC3",
  "10C84-10CC4 10C85-10CC5 10C86-10CC6 10C87-10CC7 10C88-10CC8 10C89-10CC9 10C8A-10CCA",
  "10C8B-10CCB 10C8C-10CCC 10C8D-10CCD 10C8E-10CCE 10C8F-10CCF 10C90-10CD0 10C91-10CD1",
  "10C92-10CD2 10C93-10CD3 10C94-10CD4 10C95-10CD5 10C96-10CD6 10C97-10CD7 10C98-10CD8",
  "10C99-10CD9 10C9A-10CDA 10C9B-10CDB 10C9C-10CDC 10C9D-10CDD 10C9E-10CDE 10C9F-10CDF",
  "10CA0-10CE0 10CA1-10CE1 10CA2-10CE2 10CA3-10CE3 10CA4-10CE4 10CA5-10CE5 10CA6-10CE6",
  "10CA7-10CE7 10CA8-10CE8 10CA9-10CE9 10CAA-10CEA 10CAB-10CEB 10CAC-10CEC 10CAD-10CED",
  "10CAE-10CEE 10CAF-10CEF 10CB0-10CF0 10CB1-10CF1 10CB2-10CF2 10D50-10D70 10D51-10D71",
  "10D52-10D72 10D53-10D73 10D54-10D74 10D55-10D75 10D56-10D76 10D57-10D77 10D58-10D78",
  "10D59-10D79 10D5A-10D7A 10D5B-10D7B 10D5C-10D7C 10D5D-10D7D 10D5E-10D7E 10D5F-10D7F",
  "10D60-10D80 10D61-10D81 10D62-10D82 10D63-10D83 10D64-10D84 10D65-10D85 118A0-118C0",
  "118A1-118C1 118A2-118C2 118A3-118C3 118A4-118C4 118A5-118C5 118A6-118C6 118A7-118C7",
  "118A8-118C8 118A9-118C9 118AA-118CA 118AB-118CB 118AC-118CC 118AD-118CD 118AE-118CE",
  "118AF-118CF 118B0-118D0 118B1-118D1 118B2-118D2 118B3-118D3 118B4-118D4 118B5-118D5",
  "118B6-118D6 118B7-118D7 118B8-118D8 118B9-118D9 118BA-118DA 118BB-118DB 118BC-118DC",
  "118BD-118DD 118BE-118DE 118BF-118DF 16E40-16E60 16E41-16E61 16E42-16E62 16E43-16E63",
  "16E44-16E64 16E45-16E65 16E46-16E66 16E47-16E67 16E48-16E68 16E49-16E69 16E4A-16E6A",
  "16E4B-16E6B 16E4C-16E6C 16E4D-16E6D 16E4E-16E6E 16E4F-16E6F 16E50-16E70 16E51-16E71",
  "16E52-16E72 16E53-16E73 16E54-16E74 16E55-16E75 16E56-16E76 16E57-16E77 16E58-16E78",
  "16E59-16E79 16E5A-16E7A 16E5B-16E7B 16E5C-16E7C 16E5D-16E7D 16E5E-16E7E 16E5F-16E7F",
  "1E900-1E922 1E901-1E923 1E902-1E924 1E903-1E925 1E904-1E926 1E905-1E927 1E906-1E928",
  "1E907-1E929 1E908-1E92A 1E909-1E92B 1E90A-1E92C 1E90B-1E92D 1E90C-1E92E 1E90D-1E92F",
  "1E90E-1E930 1E90F-1E931 1E910-1E932 1E911-1E933 1E912-1E934 1E913-1E935 1E914-1E936",
  "1E915-1E937 1E916-1E938 1E917-1E939 1E918-1E93A 1E919-1E93B 1E91A-1E93C 1E91B-1E93D",
  "1E91C-1E93E 1E91D-1E93F 1E91E-1E940 1E91F-1E941 1E920-1E942 1E921-1E943"]

def hexDigit? (c : Char) : Option Nat :=
  if c.isDigit then some (c.toNat - 48)
  else if 'a' ≤ c && c ≤ 'f' then some (c.toNat - 87)
  else if 'A' ≤ c && c ≤ 'F' then some (c.toNat - 55)
  else none

def readHex (text : String) : Nat :=
  text.toList.foldl (fun n c => n * 16 + (hexDigit? c).getD 0) 0

def orbits : List (List Nat) := (table.splitOn " ").map fun word => (word.splitOn "-").map readHex

/-- Adds every character that differs in case only from one of the set. -/
def close (s : CharSet) : CharSet :=
  let touched := orbits.filter fun orbit => orbit.any (CharSet.within · s.ranges)
  if touched.isEmpty then s
  else s.union ⟨touched.flatten.map fun code => ⟨code, code⟩⟩

/-- Adds every ASCII letter that differs in case only from one of the set. -/
def closeAscii (s : CharSet) : CharSet :=
  let lower := s.inter (CharSet.ofRange 97 122)
  let upper := s.inter (CharSet.ofRange 65 90)
  (s.union ⟨lower.ranges.map fun r => ⟨r.lo - 32, r.hi - 32⟩⟩).union
    ⟨upper.ranges.map fun r => ⟨r.lo + 32, r.hi + 32⟩⟩

end Foldmark.CaseFold
