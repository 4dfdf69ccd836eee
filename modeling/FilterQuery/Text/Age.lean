import FilterQuery.Text.RangeTable

/-! # The age of code points

The version of the Unicode standard in which each code point was assigned, up to 16.0.
Versions are numbered by their place in `ageVersions`, oldest first, and the table gives
each assigned code point that number. `ageName?` finds a version by a loose name
(`6.0`, `v60`, `V6_0`); the name `Unassigned` (`na`) is a value of the property without a
version. -/

namespace FilterQuery

namespace Text

/-- The versions of the standard that assigned code points, oldest first. -/
def ageVersions : List String :=
  "V1_1 V2_0 V2_1 V3_0 V3_1 V3_2 V4_0 V4_1 V5_0 V5_1 V5_2 V6_0 V6_1 V6_2 V6_3 V7_0 V8_0 V9_0 V10_0 V11_0 V12_0 V12_1 V13_0 V14_0 V15_0 V15_1 V16_0".splitOn " "

/-- The place in `ageVersions` of the version that assigned each code point. -/
def ageTable : RangeTable Nat :=
  RangeTable.ofText String.toNat? (
  "0-1F5:0 1F6-1F9:3 1FA-217:0 218-21F:3 220:5 221:6 222-233:3 234-236:6 237-241:7 242-24F:8 250-2A" ++
  "8:0 2A9-2AD:3 2AE-2AF:6 2B0-2DE:0 2DF:3 2E0-2E9:0 2EA-2EE:3 2EF-2FF:6 300-345:0 346-34E:3 34F:5 " ++
  "350-357:6 358-35C:7 35D-35F:6 360-361:0 362:3 363-36F:5 370-373:9 374-375:0 376-377:9 37A:0 37B-" ++
  "37D:8 37E:0 37F:15 384-38A:0 38C:0 38E-3A1:0 3A3-3CE:0 3CF:9 3D0-3D6:0 3D7:3 3D8-3D9:5 3DA:0 3DB" ++
  ":3 3DC:0 3DD:3 3DE:0 3DF:3 3E0:0 3E1:3 3E2-3F3:0 3F4-3F5:4 3F6:5 3F7-3FB:6 3FC-3FF:7 400:3 401-4" ++
  "0C:0 40D:3 40E-44F:0 450:3 451-45C:0 45D:3 45E-486:0 487:9 488-489:3 48A-48B:5 48C-48F:3 490-4C4" ++
  ":0 4C5-4C6:5 4C7-4C8:0 4C9-4CA:5 4CB-4CC:0 4CD-4CE:5 4CF:8 4D0-4EB:0 4EC-4ED:3 4EE-4F5:0 4F6-4F7" ++
  ":7 4F8-4F9:0 4FA-4FF:8 500-50F:5 510-513:8 514-523:9 524-525:10 526-527:11 528-52F:15 531-556:0 " ++
  "559-55F:0 560:19 561-587:0 588:19 589:0 58A:3 58D-58E:15 58F:12 591-5A1:1 5A2:7 5A3-5AF:1 5B0-5B" ++
  "9:0 5BA:8 5BB-5C3:0 5C4:1 5C5-5C7:7 5D0-5EA:0 5EF:19 5F0-5F4:0 600-603:6 604:12 605:15 606-60A:9" ++
  " 60B:7 60C:0 60D-615:6 616-61A:9 61B:0 61C:14 61D:23 61E:7 61F:0 620:11 621-63A:0 63B-63F:9 640-" ++
  "652:0 653-655:3 656-658:6 659-65E:7 65F:11 660-66D:0 66E-66F:5 670-6B7:0 6B8-6B9:3 6BA-6BE:0 6BF" ++
  ":3 6C0-6CE:0 6CF:3 6D0-6ED:0 6EE-6EF:6 6F0-6F9:0 6FA-6FE:3 6FF:6 700-70D:3 70F-72C:3 72D-72F:6 7" ++
  "30-74A:3 74D-74F:6 750-76D:7 76E-77F:9 780-7B0:3 7B1:5 7C0-7FA:8 7FD-7FF:19 800-82D:10 830-83E:1" ++
  "0 840-85B:11 85E:11 860-86A:18 870-88E:23 890-891:23 897:26 898-89F:23 8A0:12 8A1:15 8A2-8AC:12 " ++
  "8AD-8B2:15 8B3-8B4:16 8B5:23 8B6-8BD:17 8BE-8C7:22 8C8-8D2:23 8D3:19 8D4-8E2:17 8E3:16 8E4-8FE:1" ++
  "2 8FF:15 900:10 901-903:0 904:6 905-939:0 93A-93B:11 93C-94D:0 94E:10 94F:11 950-954:0 955:10 95" ++
  "6-957:11 958-970:0 971-972:9 973-977:11 978:15 979-97A:10 97B-97C:8 97D:7 97E-97F:8 980:15 981-9" ++
  "83:0 985-98C:0 98F-990:0 993-9A8:0 9AA-9B0:0 9B2:0 9B6-9B9:0 9BC:0 9BD:6 9BE-9C4:0 9C7-9C8:0 9CB" ++
  "-9CD:0 9CE:7 9D7:0 9DC-9DD:0 9DF-9E3:0 9E6-9FA:0 9FB:10 9FC-9FD:18 9FE:19 A01:6 A02:0 A03:6 A05-" ++
  "A0A:0 A0F-A10:0 A13-A28:0 A2A-A30:0 A32-A33:0 A35-A36:0 A38-A39:0 A3C:0 A3E-A42:0 A47-A48:0 A4B-" ++
  "A4D:0 A51:9 A59-A5C:0 A5E:0 A66-A74:0 A75:9 A76:19 A81-A83:0 A85-A8B:0 A8C:6 A8D:0 A8F-A91:0 A93" ++
  "-AA8:0 AAA-AB0:0 AB2-AB3:0 AB5-AB9:0 ABC-AC5:0 AC7-AC9:0 ACB-ACD:0 AD0:0 AE0:0 AE1-AE3:6 AE6-AEF" ++
  ":0 AF0:12 AF1:6 AF9:16 AFA-AFF:18 B01-B03:0 B05-B0C:0 B0F-B10:0 B13-B28:0 B2A-B30:0 B32-B33:0 B3" ++
  "5:6 B36-B39:0 B3C-B43:0 B44:9 B47-B48:0 B4B-B4D:0 B55:22 B56-B57:0 B5C-B5D:0 B5F-B61:0 B62-B63:9" ++
  " B66-B70:0 B71:6 B72-B77:11 B82-B83:0 B85-B8A:0 B8E-B90:0 B92-B95:0 B99-B9A:0 B9C:0 B9E-B9F:0 BA" ++
  "3-BA4:0 BA8-BAA:0 BAE-BB5:0 BB6:7 BB7-BB9:0 BBE-BC2:0 BC6-BC8:0 BCA-BCD:0 BD0:9 BD7:0 BE6:7 BE7-" ++
  "BF2:0 BF3-BFA:6 C00:15 C01-C03:0 C04:19 C05-C0C:0 C0E-C10:0 C12-C28:0 C2A-C33:0 C34:15 C35-C39:0" ++
  " C3C:23 C3D:9 C3E-C44:0 C46-C48:0 C4A-C4D:0 C55-C56:0 C58-C59:9 C5A:16 C5D:23 C60-C61:0 C62-C63:" ++
  "9 C66-C6F:0 C77:20 C78-C7F:9 C80:17 C81:15 C82-C83:0 C84:19 C85-C8C:0 C8E-C90:0 C92-CA8:0 CAA-CB" ++
  "3:0 CB5-CB9:0 CBC-CBD:6 CBE-CC4:0 CC6-CC8:0 CCA-CCD:0 CD5-CD6:0 CDD:23 CDE:0 CE0-CE1:0 CE2-CE3:8" ++
  " CE6-CEF:0 CF1-CF2:8 CF3:24 D00:18 D01:15 D02-D03:0 D04:22 D05-D0C:0 D0E-D10:0 D12-D28:0 D29:11 " ++
  "D2A-D39:0 D3A:11 D3B-D3C:18 D3D:9 D3E-D43:0 D44:9 D46-D48:0 D4A-D4D:0 D4E:11 D4F:17 D54-D56:17 D" ++
  "57:0 D58-D5E:17 D5F:16 D60-D61:0 D62-D63:9 D66-D6F:0 D70-D75:9 D76-D78:17 D79-D7F:9 D81:22 D82-D" ++
  "83:3 D85-D96:3 D9A-DB1:3 DB3-DBB:3 DBD:3 DC0-DC6:3 DCA:3 DCF-DD4:3 DD6:3 DD8-DDF:3 DE6-DEF:15 DF" ++
  "2-DF4:3 E01-E3A:0 E3F-E5B:0 E81-E82:0 E84:0 E86:20 E87-E88:0 E89:20 E8A:0 E8C:20 E8D:0 E8E-E93:2" ++
  "0 E94-E97:0 E98:20 E99-E9F:0 EA0:20 EA1-EA3:0 EA5:0 EA7:0 EA8-EA9:20 EAA-EAB:0 EAC:20 EAD-EB9:0 " ++
  "EBA:20 EBB-EBD:0 EC0-EC4:0 EC6:0 EC8-ECD:0 ECE:24 ED0-ED9:0 EDC-EDD:0 EDE-EDF:12 F00-F47:1 F49-F" ++
  "69:1 F6A:3 F6B-F6C:9 F71-F8B:1 F8C-F8F:11 F90-F95:1 F96:3 F97:1 F99-FAD:1 FAE-FB0:3 FB1-FB7:1 FB" ++
  "8:3 FB9:1 FBA-FBC:3 FBE-FCC:3 FCE:9 FCF:3 FD0-FD1:7 FD2-FD4:9 FD5-FD8:10 FD9-FDA:11 1000-1021:3 " ++
  "1022:9 1023-1027:3 1028:9 1029-102A:3 102B:9 102C-1032:3 1033-1035:9 1036-1039:3 103A-103F:9 104" ++
  "0-1059:3 105A-1099:9 109A-109D:10 109E-109F:9 10A0-10C5:0 10C7:12 10CD:12 10D0-10F6:0 10F7-10F8:" ++
  "5 10F9-10FA:7 10FB:0 10FC:7 10FD-10FF:12 1100-1159:0 115A-115E:10 115F-11A2:0 11A3-11A7:10 11A8-" ++
  "11F9:0 11FA-11FF:10 1200-1206:3 1207:7 1208-1246:3 1247:7 1248:3 124A-124D:3 1250-1256:3 1258:3 " ++
  "125A-125D:3 1260-1286:3 1287:7 1288:3 128A-128D:3 1290-12AE:3 12AF:7 12B0:3 12B2-12B5:3 12B8-12B" ++
  "E:3 12C0:3 12C2-12C5:3 12C8-12CE:3 12CF:7 12D0-12D6:3 12D8-12EE:3 12EF:7 12F0-130E:3 130F:7 1310" ++
  ":3 1312-1315:3 1318-131E:3 131F:7 1320-1346:3 1347:7 1348-135A:3 135D-135E:11 135F-1360:7 1361-1" ++
  "37C:3 1380-1399:7 13A0-13F4:3 13F5:16 13F8-13FD:16 1400:10 1401-1676:3 1677-167F:10 1680-169C:3 " ++
  "16A0-16F0:3 16F1-16F8:15 1700-170C:5 170D:23 170E-1714:5 1715:23 171F:23 1720-1736:5 1740-1753:5" ++
  " 1760-176C:5 176E-1770:5 1772-1773:5 1780-17DC:3 17DD:6 17E0-17E9:3 17F0-17F9:6 1800-180E:3 180F" ++
  ":23 1810-1819:3 1820-1877:3 1878:19 1880-18A9:3 18AA:9 18B0-18F5:10 1900-191C:6 191D-191E:15 192" ++
  "0-192B:6 1930-193B:6 1940:6 1944-196D:6 1970-1974:6 1980-19A9:7 19AA-19AB:10 19B0-19C9:7 19D0-19" ++
  "D9:7 19DA:10 19DE-19DF:7 19E0-19FF:6 1A00-1A1B:7 1A1E-1A1F:7 1A20-1A5E:10 1A60-1A7C:10 1A7F-1A89" ++
  ":10 1A90-1A99:10 1AA0-1AAD:10 1AB0-1ABE:15 1ABF-1AC0:22 1AC1-1ACE:23 1B00-1B4B:8 1B4C:23 1B4E-1B" ++
  "4F:26 1B50-1B7C:8 1B7D-1B7E:23 1B7F:26 1B80-1BAA:9 1BAB-1BAD:12 1BAE-1BB9:9 1BBA-1BBF:12 1BC0-1B" ++
  "F3:11 1BFC-1BFF:11 1C00-1C37:9 1C3B-1C49:9 1C4D-1C7F:9 1C80-1C88:17 1C89-1C8A:26 1C90-1CBA:19 1C" ++
  "BD-1CBF:19 1CC0-1CC7:12 1CD0-1CF2:10 1CF3-1CF6:12 1CF7:18 1CF8-1CF9:15 1CFA:20 1D00-1D6B:6 1D6C-" ++
  "1DC3:7 1DC4-1DCA:8 1DCB-1DE6:9 1DE7-1DF5:15 1DF6-1DF9:18 1DFA:23 1DFB:17 1DFC:11 1DFD:10 1DFE-1D" ++
  "FF:8 1E00-1E9A:0 1E9B:1 1E9C-1E9F:9 1EA0-1EF9:0 1EFA-1EFF:9 1F00-1F15:0 1F18-1F1D:0 1F20-1F45:0 " ++
  "1F48-1F4D:0 1F50-1F57:0 1F59:0 1F5B:0 1F5D:0 1F5F-1F7D:0 1F80-1FB4:0 1FB6-1FC4:0 1FC6-1FD3:0 1FD" ++
  "6-1FDB:0 1FDD-1FEF:0 1FF2-1FF4:0 1FF6-1FFE:0 2000-202E:0 202F:3 2030-2046:0 2047:5 2048-204D:3 2" ++
  "04E-2052:5 2053-2054:6 2055-2056:7 2057:5 2058-205E:7 205F-2063:5 2064:9 2066-2069:14 206A-2070:" ++
  "0 2071:5 2074-208E:0 2090-2094:7 2095-209C:11 20A0-20AA:0 20AB:1 20AC:2 20AD-20AF:3 20B0-20B1:5 " ++
  "20B2-20B5:7 20B6-20B8:10 20B9:11 20BA:13 20BB-20BD:15 20BE:16 20BF:18 20C0:23 20D0-20E1:0 20E2-2" ++
  "0E3:3 20E4-20EA:5 20EB:7 20EC-20EF:8 20F0:9 2100-2138:0 2139-213A:3 213B:6 213C:7 213D-214B:5 21" ++
  "4C:7 214D-214E:8 214F:9 2150-2152:10 2153-2182:0 2183:3 2184:8 2185-2188:9 2189:10 218A-218B:16 " ++
  "2190-21EA:0 21EB-21F3:3 21F4-21FF:5 2200-22F1:0 22F2-22FF:5 2300:0 2301:3 2302-237A:0 237B:3 237" ++
  "C:5 237D-239A:3 239B-23CE:5 23CF-23D0:6 23D1-23DB:7 23DC-23E7:8 23E8:10 23E9-23F3:11 23F4-23FA:1" ++
  "5 23FB-23FE:17 23FF:18 2400-2424:0 2425-2426:3 2427-2429:26 2440-244A:0 2460-24EA:0 24EB-24FE:5 " ++
  "24FF:6 2500-2595:0 2596-259F:5 25A0-25EF:0 25F0-25F7:3 25F8-25FF:5 2600-2613:0 2614-2615:6 2616-" ++
  "2617:5 2618:7 2619:3 261A-266F:0 2670-2671:3 2672-267D:5 267E-267F:7 2680-2689:5 268A-2691:6 269" ++
  "2-269C:7 269D:9 269E-269F:10 26A0-26A1:6 26A2-26B1:7 26B2:8 26B3-26BC:9 26BD-26BF:10 26C0-26C3:9" ++
  " 26C4-26CD:10 26CE:11 26CF-26E1:10 26E2:11 26E3:10 26E4-26E7:11 26E8-26FF:10 2700:15 2701-2704:0" ++
  " 2705:11 2706-2709:0 270A-270B:11 270C-2727:0 2728:11 2729-274B:0 274C:11 274D:0 274E:11 274F-27" ++
  "52:0 2753-2755:11 2756:0 2757:10 2758-275E:0 275F-2760:11 2761-2767:0 2768-2775:5 2776-2794:0 27" ++
  "95-2797:11 2798-27AF:0 27B0:11 27B1-27BE:0 27BF:11 27C0-27C6:7 27C7-27CA:8 27CB:12 27CC:9 27CD:1" ++
  "2 27CE-27CF:11 27D0-27EB:5 27EC-27EF:9 27F0-27FF:5 2800-28FF:3 2900-2AFF:5 2B00-2B0D:6 2B0E-2B13" ++
  ":7 2B14-2B1A:8 2B1B-2B1F:9 2B20-2B23:8 2B24-2B4C:9 2B4D-2B4F:15 2B50-2B54:9 2B55-2B59:10 2B5A-2B" ++
  "73:15 2B76-2B95:15 2B97:22 2B98-2BB9:15 2BBA-2BBC:19 2BBD-2BC8:15 2BC9:20 2BCA-2BD1:15 2BD2:18 2" ++
  "BD3-2BEB:19 2BEC-2BEF:16 2BF0-2BFE:19 2BFF:20 2C00-2C2E:7 2C2F:23 2C30-2C5E:7 2C5F:23 2C60-2C6C:" ++
  "8 2C6D-2C6F:9 2C70:10 2C71-2C73:9 2C74-2C77:8 2C78-2C7D:9 2C7E-2C7F:10 2C80-2CEA:7 2CEB-2CF1:10 " ++
  "2CF2-2CF3:12 2CF9-2D25:7 2D27:12 2D2D:12 2D30-2D65:7 2D66-2D67:12 2D6F:7 2D70:11 2D7F:11 2D80-2D" ++
  "96:7 2DA0-2DA6:7 2DA8-2DAE:7 2DB0-2DB6:7 2DB8-2DBE:7 2DC0-2DC6:7 2DC8-2DCE:7 2DD0-2DD6:7 2DD8-2D" ++
  "DE:7 2DE0-2DFF:9 2E00-2E17:7 2E18-2E1B:9 2E1C-2E1D:7 2E1E-2E30:9 2E31:10 2E32-2E3B:12 2E3C-2E42:" ++
  "15 2E43-2E44:17 2E45-2E49:18 2E4A-2E4E:19 2E4F:20 2E50-2E52:22 2E53-2E5D:23 2E80-2E99:3 2E9B-2EF" ++
  "3:3 2F00-2FD5:3 2FF0-2FFB:3 2FFC-2FFF:25 3000-3037:0 3038-303A:3 303B-303D:5 303E:3 303F:0 3041-" ++
  "3094:0 3095-3096:5 3099-309E:0 309F-30A0:5 30A1-30FE:0 30FF:5 3105-312C:0 312D:9 312E:18 312F:19" ++
  " 3131-318E:0 3190-319F:0 31A0-31B7:3 31B8-31BA:11 31BB-31BF:22 31C0-31CF:7 31D0-31E3:9 31E4-31E5" ++
  ":26 31EF:25 31F0-31FF:5 3200-321C:0 321D-321E:6 3220-3243:0 3244-324F:10 3250:6 3251-325F:5 3260" ++
  "-327B:0 327C-327D:6 327E:7 327F-32B0:0 32B1-32BF:5 32C0-32CB:0 32CC-32CF:6 32D0-32FE:0 32FF:21 3" ++
  "300-3376:0 3377-337A:6 337B-33DD:0 33DE-33DF:6 33E0-33FE:0 33FF:6 3400-4DB5:3 4DB6-4DBF:22 4DC0-" ++
  "4DFF:6 4E00-9FA5:0 9FA6-9FBB:7 9FBC-9FC3:9 9FC4-9FCB:10 9FCC:12 9FCD-9FD5:16 9FD6-9FEA:18 9FEB-9" ++
  "FEF:19 9FF0-9FFC:22 9FFD-9FFF:23 A000-A48C:3 A490-A4A1:3 A4A2-A4A3:5 A4A4-A4B3:3 A4B4:5 A4B5-A4C" ++
  "0:3 A4C1:5 A4C2-A4C4:3 A4C5:5 A4C6:3 A4D0-A4FF:10 A500-A62B:9 A640-A65F:9 A660-A661:11 A662-A673" ++
  ":9 A674-A67B:12 A67C-A697:9 A698-A69D:15 A69E:16 A69F:12 A6A0-A6F7:10 A700-A716:7 A717-A71A:8 A7" ++
  "1B-A71F:9 A720-A721:8 A722-A78C:9 A78D-A78E:11 A78F:16 A790-A791:11 A792-A793:12 A794-A79F:15 A7" ++
  "A0-A7A9:11 A7AA:12 A7AB-A7AD:15 A7AE:17 A7AF:19 A7B0-A7B1:15 A7B2-A7B7:16 A7B8-A7B9:19 A7BA-A7BF" ++
  ":20 A7C0-A7C1:23 A7C2-A7C6:20 A7C7-A7CA:22 A7CB-A7CD:26 A7D0-A7D1:23 A7D3:23 A7D5-A7D9:23 A7DA-A" ++
  "7DC:26 A7F2-A7F4:23 A7F5-A7F6:22 A7F7:15 A7F8-A7F9:12 A7FA:11 A7FB-A7FF:9 A800-A82B:7 A82C:22 A8" ++
  "30-A839:10 A840-A877:8 A880-A8C4:9 A8C5:17 A8CE-A8D9:9 A8E0-A8FB:10 A8FC-A8FD:16 A8FE-A8FF:19 A9" ++
  "00-A953:9 A95F:9 A960-A97C:10 A980-A9CD:10 A9CF-A9D9:10 A9DE-A9DF:10 A9E0-A9FE:15 AA00-AA36:9 AA" ++
  "40-AA4D:9 AA50-AA59:9 AA5C-AA5F:9 AA60-AA7B:10 AA7C-AA7F:15 AA80-AAC2:10 AADB-AADF:10 AAE0-AAF6:" ++
  "12 AB01-AB06:11 AB09-AB0E:11 AB11-AB16:11 AB20-AB26:11 AB28-AB2E:11 AB30-AB5F:15 AB60-AB63:16 AB" ++
  "64-AB65:15 AB66-AB67:20 AB68-AB6B:22 AB70-ABBF:16 ABC0-ABED:10 ABF0-ABF9:10 AC00-D7A3:1 D7B0-D7C" ++
  "6:10 D7CB-D7FB:10 E000-FA2D:0 FA2E-FA2F:12 FA30-FA6A:5 FA6B-FA6D:10 FA70-FAD9:7 FB00-FB06:0 FB13" ++
  "-FB17:0 FB1D:3 FB1E-FB36:0 FB38-FB3C:0 FB3E:0 FB40-FB41:0 FB43-FB44:0 FB46-FBB1:0 FBB2-FBC1:11 F" ++
  "BC2:23 FBD3-FD3F:0 FD40-FD4F:23 FD50-FD8F:0 FD92-FDC7:0 FDCF:23 FDD0-FDEF:4 FDF0-FDFB:0 FDFC:5 F" ++
  "DFD:6 FDFE-FDFF:23 FE00-FE0F:5 FE10-FE19:7 FE20-FE23:0 FE24-FE26:9 FE27-FE2D:15 FE2E-FE2F:16 FE3" ++
  "0-FE44:0 FE45-FE46:5 FE47-FE48:6 FE49-FE52:0 FE54-FE66:0 FE68-FE6B:0 FE70-FE72:0 FE73:5 FE74:0 F" ++
  "E76-FEFC:0 FEFF:0 FF01-FF5E:0 FF5F-FF60:5 FF61-FFBE:0 FFC2-FFC7:0 FFCA-FFCF:0 FFD2-FFD7:0 FFDA-F" ++
  "FDC:0 FFE0-FFE6:0 FFE8-FFEE:0 FFF9-FFFB:3 FFFC:2 FFFD-FFFF:0 10000-1000B:6 1000D-10026:6 10028-1" ++
  "003A:6 1003C-1003D:6 1003F-1004D:6 10050-1005D:6 10080-100FA:6 10100-10102:6 10107-10133:6 10137" ++
  "-1013F:6 10140-1018A:7 1018B-1018C:15 1018D-1018E:17 10190-1019B:9 1019C:22 101A0:15 101D0-101FD" ++
  ":9 10280-1029C:9 102A0-102D0:9 102E0-102FB:15 10300-1031E:4 1031F:15 10320-10323:4 1032D-1032F:1" ++
  "8 10330-1034A:4 10350-1037A:15 10380-1039D:6 1039F:6 103A0-103C3:7 103C8-103D5:7 10400-10425:4 1" ++
  "0426-10427:6 10428-1044D:4 1044E-1049D:6 104A0-104A9:6 104B0-104D3:17 104D8-104FB:17 10500-10527" ++
  ":15 10530-10563:15 1056F:15 10570-1057A:23 1057C-1058A:23 1058C-10592:23 10594-10595:23 10597-10" ++
  "5A1:23 105A3-105B1:23 105B3-105B9:23 105BB-105BC:23 105C0-105F3:26 10600-10736:15 10740-10755:15" ++
  " 10760-10767:15 10780-10785:23 10787-107B0:23 107B2-107BA:23 10800-10805:6 10808:6 1080A-10835:6" ++
  " 10837-10838:6 1083C:6 1083F:6 10840-10855:10 10857-1085F:10 10860-1089E:15 108A7-108AF:15 108E0" ++
  "-108F2:16 108F4-108F5:16 108FB-108FF:16 10900-10919:8 1091A-1091B:10 1091F:8 10920-10939:9 1093F" ++
  ":9 10980-109B7:12 109BC-109BD:16 109BE-109BF:12 109C0-109CF:16 109D2-109FF:16 10A00-10A03:7 10A0" ++
  "5-10A06:7 10A0C-10A13:7 10A15-10A17:7 10A19-10A33:7 10A34-10A35:19 10A38-10A3A:7 10A3F-10A47:7 1" ++
  "0A48:19 10A50-10A58:7 10A60-10A7F:10 10A80-10A9F:15 10AC0-10AE6:15 10AEB-10AF6:15 10B00-10B35:10" ++
  " 10B39-10B55:10 10B58-10B72:10 10B78-10B7F:10 10B80-10B91:15 10B99-10B9C:15 10BA9-10BAF:15 10C00" ++
  "-10C48:10 10C80-10CB2:16 10CC0-10CF2:16 10CFA-10CFF:16 10D00-10D27:19 10D30-10D39:19 10D40-10D65" ++
  ":26 10D69-10D85:26 10D8E-10D8F:26 10E60-10E7E:10 10E80-10EA9:22 10EAB-10EAD:22 10EB0-10EB1:22 10" ++
  "EC2-10EC4:26 10EFC:26 10EFD-10EFF:24 10F00-10F27:19 10F30-10F59:19 10F70-10F89:23 10FB0-10FCB:22" ++
  " 10FE0-10FF6:20 11000-1104D:11 11052-1106F:11 11070-11075:23 1107F:15 11080-110C1:10 110C2:23 11" ++
  "0CD:19 110D0-110E8:12 110F0-110F9:12 11100-11134:12 11136-11143:12 11144-11146:19 11147:22 11150" ++
  "-11176:15 11180-111C8:12 111C9-111CC:16 111CD:15 111CE-111CF:22 111D0-111D9:12 111DA:15 111DB-11" ++
  "1DF:16 111E1-111F4:15 11200-11211:15 11213-1123D:15 1123E:17 1123F-11241:24 11280-11286:16 11288" ++
  ":16 1128A-1128D:16 1128F-1129D:16 1129F-112A9:16 112B0-112EA:15 112F0-112F9:15 11300:16 11301-11" ++
  "303:15 11305-1130C:15 1130F-11310:15 11313-11328:15 1132A-11330:15 11332-11333:15 11335-11339:15" ++
  " 1133B:19 1133C-11344:15 11347-11348:15 1134B-1134D:15 11350:16 11357:15 1135D-11363:15 11366-11" ++
  "36C:15 11370-11374:15 11380-11389:26 1138B:26 1138E:26 11390-113B5:26 113B7-113C0:26 113C2:26 11" ++
  "3C5:26 113C7-113CA:26 113CC-113D5:26 113D7-113D8:26 113E1-113E2:26 11400-11459:17 1145A:22 1145B" ++
  ":17 1145D:17 1145E:19 1145F:20 11460-11461:22 11480-114C7:15 114D0-114D9:15 11580-115B5:15 115B8" ++
  "-115C9:15 115CA-115DD:16 11600-11644:15 11650-11659:15 11660-1166C:17 11680-116B7:12 116B8:20 11" ++
  "6B9:23 116C0-116C9:12 116D0-116E3:26 11700-11719:16 1171A:19 1171D-1172B:16 11730-1173F:16 11740" ++
  "-11746:23 11800-1183B:19 118A0-118F2:15 118FF:15 11900-11906:22 11909:22 1190C-11913:22 11915-11" ++
  "916:22 11918-11935:22 11937-11938:22 1193B-11946:22 11950-11959:22 119A0-119A7:20 119AA-119D7:20" ++
  " 119DA-119E4:20 11A00-11A47:18 11A50-11A83:18 11A84-11A85:20 11A86-11A9C:18 11A9D:19 11A9E-11AA2" ++
  ":18 11AB0-11ABF:23 11AC0-11AF8:15 11B00-11B09:24 11BC0-11BE1:26 11BF0-11BF9:26 11C00-11C08:17 11" ++
  "C0A-11C36:17 11C38-11C45:17 11C50-11C6C:17 11C70-11C8F:17 11C92-11CA7:17 11CA9-11CB6:17 11D00-11" ++
  "D06:18 11D08-11D09:18 11D0B-11D36:18 11D3A:18 11D3C-11D3D:18 11D3F-11D47:18 11D50-11D59:18 11D60" ++
  "-11D65:19 11D67-11D68:19 11D6A-11D8E:19 11D90-11D91:19 11D93-11D98:19 11DA0-11DA9:19 11EE0-11EF8" ++
  ":19 11F00-11F10:24 11F12-11F3A:24 11F3E-11F59:24 11F5A:26 11FB0:22 11FC0-11FF1:20 11FFF:20 12000" ++
  "-1236E:8 1236F-12398:15 12399:16 12400-12462:8 12463-1246E:15 12470-12473:8 12474:15 12480-12543" ++
  ":16 12F90-12FF2:23 13000-1342E:10 1342F:24 13430-13438:20 13439-13455:24 13460-143FA:26 14400-14" ++
  "646:16 16100-16139:26 16800-16A38:11 16A40-16A5E:15 16A60-16A69:15 16A6E-16A6F:15 16A70-16ABE:23" ++
  " 16AC0-16AC9:23 16AD0-16AED:15 16AF0-16AF5:15 16B00-16B45:15 16B50-16B59:15 16B5B-16B61:15 16B63" ++
  "-16B77:15 16B7D-16B8F:15 16D40-16D79:26 16E40-16E9A:19 16F00-16F44:12 16F45-16F4A:20 16F4F:20 16" ++
  "F50-16F7E:12 16F7F-16F87:20 16F8F-16F9F:12 16FE0:17 16FE1:18 16FE2-16FE3:20 16FE4:22 16FF0-16FF1" ++
  ":22 17000-187EC:17 187ED-187F1:19 187F2-187F7:20 18800-18AF2:17 18AF3-18CD5:22 18CFF:26 18D00-18" ++
  "D08:22 1AFF0-1AFF3:23 1AFF5-1AFFB:23 1AFFD-1AFFE:23 1B000-1B001:11 1B002-1B11E:18 1B11F-1B122:23" ++
  " 1B132:24 1B150-1B152:20 1B155:24 1B164-1B167:20 1B170-1B2FB:18 1BC00-1BC6A:15 1BC70-1BC7C:15 1B" ++
  "C80-1BC88:15 1BC90-1BC99:15 1BC9C-1BCA3:15 1CC00-1CCF9:26 1CD00-1CEB3:26 1CF00-1CF2D:23 1CF30-1C" ++
  "F46:23 1CF50-1CFC3:23 1D000-1D0F5:4 1D100-1D126:4 1D129:9 1D12A-1D1DD:4 1D1DE-1D1E8:16 1D1E9-1D1" ++
  "EA:23 1D200-1D245:7 1D2C0-1D2D3:24 1D2E0-1D2F3:19 1D300-1D356:6 1D360-1D371:8 1D372-1D378:19 1D4" ++
  "00-1D454:4 1D456-1D49C:4 1D49E-1D49F:4 1D4A2:4 1D4A5-1D4A6:4 1D4A9-1D4AC:4 1D4AE-1D4B9:4 1D4BB:4" ++
  " 1D4BD-1D4C0:4 1D4C1:6 1D4C2-1D4C3:4 1D4C5-1D505:4 1D507-1D50A:4 1D50D-1D514:4 1D516-1D51C:4 1D5" ++
  "1E-1D539:4 1D53B-1D53E:4 1D540-1D544:4 1D546:4 1D54A-1D550:4 1D552-1D6A3:4 1D6A4-1D6A5:7 1D6A8-1" ++
  "D7C9:4 1D7CA-1D7CB:8 1D7CE-1D7FF:4 1D800-1DA8B:16 1DA9B-1DA9F:16 1DAA1-1DAAF:16 1DF00-1DF1E:23 1" ++
  "DF25-1DF2A:24 1E000-1E006:17 1E008-1E018:17 1E01B-1E021:17 1E023-1E024:17 1E026-1E02A:17 1E030-1" ++
  "E06D:24 1E08F:24 1E100-1E12C:20 1E130-1E13D:20 1E140-1E149:20 1E14E-1E14F:20 1E290-1E2AE:23 1E2C" ++
  "0-1E2F9:20 1E2FF:20 1E4D0-1E4F9:24 1E5D0-1E5FA:26 1E5FF:26 1E7E0-1E7E6:23 1E7E8-1E7EB:23 1E7ED-1" ++
  "E7EE:23 1E7F0-1E7FE:23 1E800-1E8C4:15 1E8C7-1E8D6:15 1E900-1E94A:17 1E94B:20 1E950-1E959:17 1E95" ++
  "E-1E95F:17 1EC71-1ECB4:19 1ED01-1ED3D:20 1EE00-1EE03:12 1EE05-1EE1F:12 1EE21-1EE22:12 1EE24:12 1" ++
  "EE27:12 1EE29-1EE32:12 1EE34-1EE37:12 1EE39:12 1EE3B:12 1EE42:12 1EE47:12 1EE49:12 1EE4B:12 1EE4" ++
  "D-1EE4F:12 1EE51-1EE52:12 1EE54:12 1EE57:12 1EE59:12 1EE5B:12 1EE5D:12 1EE5F:12 1EE61-1EE62:12 1" ++
  "EE64:12 1EE67-1EE6A:12 1EE6C-1EE72:12 1EE74-1EE77:12 1EE79-1EE7C:12 1EE7E:12 1EE80-1EE89:12 1EE8" ++
  "B-1EE9B:12 1EEA1-1EEA3:12 1EEA5-1EEA9:12 1EEAB-1EEBB:12 1EEF0-1EEF1:12 1F000-1F02B:9 1F030-1F093" ++
  ":9 1F0A0-1F0AE:11 1F0B1-1F0BE:11 1F0BF:15 1F0C1-1F0CF:11 1F0D1-1F0DF:11 1F0E0-1F0F5:15 1F100-1F1" ++
  "0A:10 1F10B-1F10C:15 1F10D-1F10F:22 1F110-1F12E:10 1F12F:19 1F130:11 1F131:10 1F132-1F13C:11 1F1" ++
  "3D:10 1F13E:11 1F13F:10 1F140-1F141:11 1F142:10 1F143-1F145:11 1F146:10 1F147-1F149:11 1F14A-1F1" ++
  "4E:10 1F14F-1F156:11 1F157:10 1F158-1F15E:11 1F15F:10 1F160-1F169:11 1F16A-1F16B:12 1F16C:20 1F1" ++
  "6D-1F16F:22 1F170-1F178:11 1F179:10 1F17A:11 1F17B-1F17C:10 1F17D-1F17E:11 1F17F:10 1F180-1F189:" ++
  "11 1F18A-1F18D:10 1F18E-1F18F:11 1F190:10 1F191-1F19A:11 1F19B-1F1AC:17 1F1AD:22 1F1E6-1F1FF:11 " ++
  "1F200:10 1F201-1F202:11 1F210-1F231:10 1F232-1F23A:11 1F23B:17 1F240-1F248:10 1F250-1F251:11 1F2" ++
  "60-1F265:18 1F300-1F320:11 1F321-1F32C:15 1F32D-1F32F:16 1F330-1F335:11 1F336:15 1F337-1F37C:11 " ++
  "1F37D:15 1F37E-1F37F:16 1F380-1F393:11 1F394-1F39F:15 1F3A0-1F3C4:11 1F3C5:15 1F3C6-1F3CA:11 1F3" ++
  "CB-1F3CE:15 1F3CF-1F3D3:16 1F3D4-1F3DF:15 1F3E0-1F3F0:11 1F3F1-1F3F7:15 1F3F8-1F3FF:16 1F400-1F4" ++
  "3E:11 1F43F:15 1F440:11 1F441:15 1F442-1F4F7:11 1F4F8:15 1F4F9-1F4FC:11 1F4FD-1F4FE:15 1F4FF:16 " ++
  "1F500-1F53D:11 1F53E-1F53F:15 1F540-1F543:12 1F544-1F54A:15 1F54B-1F54F:16 1F550-1F567:11 1F568-" ++
  "1F579:15 1F57A:17 1F57B-1F5A3:15 1F5A4:17 1F5A5-1F5FA:15 1F5FB-1F5FF:11 1F600:12 1F601-1F610:11 " ++
  "1F611:12 1F612-1F614:11 1F615:12 1F616:11 1F617:12 1F618:11 1F619:12 1F61A:11 1F61B:12 1F61C-1F6" ++
  "1E:11 1F61F:12 1F620-1F625:11 1F626-1F627:12 1F628-1F62B:11 1F62C:12 1F62D:11 1F62E-1F62F:12 1F6" ++
  "30-1F633:11 1F634:12 1F635-1F640:11 1F641-1F642:15 1F643-1F644:16 1F645-1F64F:11 1F650-1F67F:15 " ++
  "1F680-1F6C5:11 1F6C6-1F6CF:15 1F6D0:16 1F6D1-1F6D2:17 1F6D3-1F6D4:18 1F6D5:20 1F6D6-1F6D7:22 1F6" ++
  "DC:24 1F6DD-1F6DF:23 1F6E0-1F6EC:15 1F6F0-1F6F3:15 1F6F4-1F6F6:17 1F6F7-1F6F8:18 1F6F9:19 1F6FA:" ++
  "20 1F6FB-1F6FC:22 1F700-1F773:11 1F774-1F776:24 1F77B-1F77F:24 1F780-1F7D4:15 1F7D5-1F7D8:19 1F7" ++
  "D9:24 1F7E0-1F7EB:20 1F7F0:23 1F800-1F80B:15 1F810-1F847:15 1F850-1F859:15 1F860-1F887:15 1F890-" ++
  "1F8AD:15 1F8B0-1F8B1:22 1F8B2-1F8BB:26 1F8C0-1F8C1:26 1F900-1F90B:18 1F90C:22 1F90D-1F90F:20 1F9" ++
  "10-1F918:16 1F919-1F91E:17 1F91F:18 1F920-1F927:17 1F928-1F92F:18 1F930:17 1F931-1F932:18 1F933-" ++
  "1F93E:17 1F93F:20 1F940-1F94B:17 1F94C:18 1F94D-1F94F:19 1F950-1F95E:17 1F95F-1F96B:18 1F96C-1F9" ++
  "70:19 1F971:20 1F972:22 1F973-1F976:19 1F977-1F978:22 1F979:23 1F97A:19 1F97B:20 1F97C-1F97F:19 " ++
  "1F980-1F984:16 1F985-1F991:17 1F992-1F997:18 1F998-1F9A2:19 1F9A3-1F9A4:22 1F9A5-1F9AA:20 1F9AB-" ++
  "1F9AD:22 1F9AE-1F9AF:20 1F9B0-1F9B9:19 1F9BA-1F9BF:20 1F9C0:16 1F9C1-1F9C2:19 1F9C3-1F9CA:20 1F9" ++
  "CB:22 1F9CC:23 1F9CD-1F9CF:20 1F9D0-1F9E6:18 1F9E7-1F9FF:19 1FA00-1FA53:20 1FA60-1FA6D:19 1FA70-" ++
  "1FA73:20 1FA74:22 1FA75-1FA77:24 1FA78-1FA7A:20 1FA7B-1FA7C:23 1FA80-1FA82:20 1FA83-1FA86:22 1FA" ++
  "87-1FA88:24 1FA89:26 1FA8F:26 1FA90-1FA95:20 1FA96-1FAA8:22 1FAA9-1FAAC:23 1FAAD-1FAAF:24 1FAB0-" ++
  "1FAB6:22 1FAB7-1FABA:23 1FABB-1FABD:24 1FABE:26 1FABF:24 1FAC0-1FAC2:22 1FAC3-1FAC5:23 1FAC6:26 " ++
  "1FACE-1FACF:24 1FAD0-1FAD6:22 1FAD7-1FAD9:23 1FADA-1FADB:24 1FADC:26 1FADF:26 1FAE0-1FAE7:23 1FA" ++
  "E8:24 1FAE9:26 1FAF0-1FAF6:23 1FAF7-1FAF8:24 1FB00-1FB92:22 1FB94-1FBCA:22 1FBCB-1FBEF:26 1FBF0-" ++
  "1FBF9:22 1FFFE-1FFFF:1 20000-2A6D6:4 2A6D7-2A6DD:22 2A6DE-2A6DF:23 2A700-2B734:10 2B735-2B738:23" ++
  " 2B739:24 2B740-2B81D:11 2B820-2CEA1:16 2CEB0-2EBE0:18 2EBF0-2EE5D:25 2F800-2FA1D:4 2FFFE-2FFFF:" ++
  "1 30000-3134A:22 31350-323AF:24 3FFFE-3FFFF:1 4FFFE-4FFFF:1 5FFFE-5FFFF:1 6FFFE-6FFFF:1 7FFFE-7F" ++
  "FFF:1 8FFFE-8FFFF:1 9FFFE-9FFFF:1 AFFFE-AFFFF:1 BFFFE-BFFFF:1 CFFFE-CFFFF:1 DFFFE-DFFFF:1 E0001:" ++
  "4 E0020-E007F:4 E0100-E01EF:6 EFFFE-10FFFF:1 ")

/-- The place in `ageVersions` of the version that assigned a character. -/
def ageOf? (c : Char) : Option Nat := ageTable.find? c.toNat

/-- The names of the versions in loose form, each with its long name. -/
def ageNames : List (String × String) :=
  aliasPairs (
  "1.1:V1_1 10.0:V10_0 11.0:V11_0 12.0:V12_0 12.1:V12_1 13.0:V13_0 14.0:V14_0 15.0:V15_0 15.1:V15_1" ++
  " 16.0:V16_0 2.0:V2_0 2.1:V2_1 3.0:V3_0 3.1:V3_1 3.2:V3_2 4.0:V4_0 4.1:V4_1 5.0:V5_0 5.1:V5_1 5.2" ++
  ":V5_2 6.0:V6_0 6.1:V6_1 6.2:V6_2 6.3:V6_3 7.0:V7_0 8.0:V8_0 9.0:V9_0 na:Unassigned unassigned:Un" ++
  "assigned v100:V10_0 v11:V1_1 v110:V11_0 v120:V12_0 v121:V12_1 v130:V13_0 v140:V14_0 v150:V15_0 v" ++
  "151:V15_1 v160:V16_0 v20:V2_0 v21:V2_1 v30:V3_0 v31:V3_1 v32:V3_2 v40:V4_0 v41:V4_1 v50:V5_0 v51" ++
  ":V5_1 v52:V5_2 v60:V6_0 v61:V6_1 v62:V6_2 v63:V6_3 v70:V7_0 v80:V8_0 v90:V9_0 ")

/-- The long name of a version, by a loose name. -/
def ageName? (name : String) : Option String := ageNames.lookup name

/-- The place of a version in `ageVersions`, by its long name. -/
def ageIndex? (version : String) : Option Nat := ageVersions.findIdx? (· == version)

end Text

end FilterQuery
