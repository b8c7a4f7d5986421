import ManifestLint.Text.RangeTable

/-! # Binary properties

The code points of each binary Unicode property that patterns may name (`Alphabetic`,
`White_Space`, `Emoji`, the contributory `Other_` properties, …) as of Unicode 16.0, with the
names each is known by, the short name first.
-/

namespace ManifestLint.Text

/-- The code points of each binary property, with its names. -/
def propertyTables : List (List String × RangeTable) :=
  RangeTable.namedOfString (
  "Alpha,Alphabetic:41-5A,61-7A,AA-AA,B5-B5,BA-BA,C0-D6,D8-F6,F8-2C1,2C6-2D1,2E0-2E4,2EC-2EC,2E" ++
    "E-2EE,345-345,363-374,376-377,37A-37D,37F-37F,386-386,388-38A,38C-38C,38E-3A1,3A3-3F5,3F7-48" ++
    "1,48A-52F,531-556,559-559,560-588,5B0-5BD,5BF-5BF,5C1-5C2,5C4-5C5,5C7-5C7,5D0-5EA,5EF-5F2,61" ++
    "0-61A,620-657,659-65F,66E-6D3,6D5-6DC,6E1-6E8,6ED-6EF,6FA-6FC,6FF-6FF,710-73F,74D-7B1,7CA-7E" ++
    "A,7F4-7F5,7FA-7FA,800-817,81A-82C,840-858,860-86A,870-887,889-88E,897-897,8A0-8C9,8D4-8DF,8E" ++
    "3-8E9,8F0-93B,93D-94C,94E-950,955-963,971-983,985-98C,98F-990,993-9A8,9AA-9B0,9B2-9B2,9B6-9B" ++
    "9,9BD-9C4,9C7-9C8,9CB-9CC,9CE-9CE,9D7-9D7,9DC-9DD,9DF-9E3,9F0-9F1,9FC-9FC,A01-A03,A05-A0A,A0" ++
    "F-A10,A13-A28,A2A-A30,A32-A33,A35-A36,A38-A39,A3E-A42,A47-A48,A4B-A4C,A51-A51,A59-A5C,A5E-A5" ++
    "E,A70-A75,A81-A83,A85-A8D,A8F-A91,A93-AA8,AAA-AB0,AB2-AB3,AB5-AB9,ABD-AC5,AC7-AC9,ACB-ACC,AD" ++
    "0-AD0,AE0-AE3,AF9-AFC,B01-B03,B05-B0C,B0F-B10,B13-B28,B2A-B30,B32-B33,B35-B39,B3D-B44,B47-B4" ++
    "8,B4B-B4C,B56-B57,B5C-B5D,B5F-B63,B71-B71,B82-B83,B85-B8A,B8E-B90,B92-B95,B99-B9A,B9C-B9C,B9" ++
    "E-B9F,BA3-BA4,BA8-BAA,BAE-BB9,BBE-BC2,BC6-BC8,BCA-BCC,BD0-BD0,BD7-BD7,C00-C0C,C0E-C10,C12-C2" ++
    "8,C2A-C39,C3D-C44,C46-C48,C4A-C4C,C55-C56,C58-C5A,C5D-C5D,C60-C63,C80-C83,C85-C8C,C8E-C90,C9" ++
    "2-CA8,CAA-CB3,CB5-CB9,CBD-CC4,CC6-CC8,CCA-CCC,CD5-CD6,CDD-CDE,CE0-CE3,CF1-CF3,D00-D0C,D0E-D1" ++
    "0,D12-D3A,D3D-D44,D46-D48,D4A-D4C,D4E-D4E,D54-D57,D5F-D63,D7A-D7F,D81-D83,D85-D96,D9A-DB1,DB" ++
    "3-DBB,DBD-DBD,DC0-DC6,DCF-DD4,DD6-DD6,DD8-DDF,DF2-DF3,E01-E3A,E40-E46,E4D-E4D,E81-E82,E84-E8" ++
    "4,E86-E8A,E8C-EA3,EA5-EA5,EA7-EB9,EBB-EBD,EC0-EC4,EC6-EC6,ECD-ECD,EDC-EDF,F00-F00,F40-F47,F4" ++
    "9-F6C,F71-F83,F88-F97,F99-FBC,1000-1036,1038-1038,103B-103F,1050-108F,109A-109D,10A0-10C5,10" ++
    "C7-10C7,10CD-10CD,10D0-10FA,10FC-1248,124A-124D,1250-1256,1258-1258,125A-125D,1260-1288,128A" ++
    "-128D,1290-12B0,12B2-12B5,12B8-12BE,12C0-12C0,12C2-12C5,12C8-12D6,12D8-1310,1312-1315,1318-1" ++
    "35A,1380-138F,13A0-13F5,13F8-13FD,1401-166C,166F-167F,1681-169A,16A0-16EA,16EE-16F8,1700-171" ++
    "3,171F-1733,1740-1753,1760-176C,176E-1770,1772-1773,1780-17B3,17B6-17C8,17D7-17D7,17DC-17DC," ++
    "1820-1878,1880-18AA,18B0-18F5,1900-191E,1920-192B,1930-1938,1950-196D,1970-1974,1980-19AB,19" ++
    "B0-19C9,1A00-1A1B,1A20-1A5E,1A61-1A74,1AA7-1AA7,1ABF-1AC0,1ACC-1ACE,1B00-1B33,1B35-1B43,1B45" ++
    "-1B4C,1B80-1BA9,1BAC-1BAF,1BBA-1BE5,1BE7-1BF1,1C00-1C36,1C4D-1C4F,1C5A-1C7D,1C80-1C8A,1C90-1" ++
    "CBA,1CBD-1CBF,1CE9-1CEC,1CEE-1CF3,1CF5-1CF6,1CFA-1CFA,1D00-1DBF,1DD3-1DF4,1E00-1F15,1F18-1F1" ++
    "D,1F20-1F45,1F48-1F4D,1F50-1F57,1F59-1F59,1F5B-1F5B,1F5D-1F5D,1F5F-1F7D,1F80-1FB4,1FB6-1FBC," ++
    "1FBE-1FBE,1FC2-1FC4,1FC6-1FCC,1FD0-1FD3,1FD6-1FDB,1FE0-1FEC,1FF2-1FF4,1FF6-1FFC,2071-2071,20" ++
    "7F-207F,2090-209C,2102-2102,2107-2107,210A-2113,2115-2115,2119-211D,2124-2124,2126-2126,2128" ++
    "-2128,212A-212D,212F-2139,213C-213F,2145-2149,214E-214E,2160-2188,24B6-24E9,2C00-2CE4,2CEB-2" ++
    "CEE,2CF2-2CF3,2D00-2D25,2D27-2D27,2D2D-2D2D,2D30-2D67,2D6F-2D6F,2D80-2D96,2DA0-2DA6,2DA8-2DA" ++
    "E,2DB0-2DB6,2DB8-2DBE,2DC0-2DC6,2DC8-2DCE,2DD0-2DD6,2DD8-2DDE,2DE0-2DFF,2E2F-2E2F,3005-3007," ++
    "3021-3029,3031-3035,3038-303C,3041-3096,309D-309F,30A1-30FA,30FC-30FF,3105-312F,3131-318E,31" ++
    "A0-31BF,31F0-31FF,3400-4DBF,4E00-A48C,A4D0-A4FD,A500-A60C,A610-A61F,A62A-A62B,A640-A66E,A674" ++
    "-A67B,A67F-A6EF,A717-A71F,A722-A788,A78B-A7CD,A7D0-A7D1,A7D3-A7D3,A7D5-A7DC,A7F2-A805,A807-A" ++
    "827,A840-A873,A880-A8C3,A8C5-A8C5,A8F2-A8F7,A8FB-A8FB,A8FD-A8FF,A90A-A92A,A930-A952,A960-A97" ++
    "C,A980-A9B2,A9B4-A9BF,A9CF-A9CF,A9E0-A9EF,A9FA-A9FE,AA00-AA36,AA40-AA4D,AA60-AA76,AA7A-AABE," ++
    "AAC0-AAC0,AAC2-AAC2,AADB-AADD,AAE0-AAEF,AAF2-AAF5,AB01-AB06,AB09-AB0E,AB11-AB16,AB20-AB26,AB" ++
    "28-AB2E,AB30-AB5A,AB5C-AB69,AB70-ABEA,AC00-D7A3,D7B0-D7C6,D7CB-D7FB,F900-FA6D,FA70-FAD9,FB00" ++
    "-FB06,FB13-FB17,FB1D-FB28,FB2A-FB36,FB38-FB3C,FB3E-FB3E,FB40-FB41,FB43-FB44,FB46-FBB1,FBD3-F" ++
    "D3D,FD50-FD8F,FD92-FDC7,FDF0-FDFB,FE70-FE74,FE76-FEFC,FF21-FF3A,FF41-FF5A,FF66-FFBE,FFC2-FFC" ++
    "7,FFCA-FFCF,FFD2-FFD7,FFDA-FFDC,10000-1000B,1000D-10026,10028-1003A,1003C-1003D,1003F-1004D," ++
    "10050-1005D,10080-100FA,10140-10174,10280-1029C,102A0-102D0,10300-1031F,1032D-1034A,10350-10" ++
    "37A,10380-1039D,103A0-103C3,103C8-103CF,103D1-103D5,10400-1049D,104B0-104D3,104D8-104FB,1050" ++
    "0-10527,10530-10563,10570-1057A,1057C-1058A,1058C-10592,10594-10595,10597-105A1,105A3-105B1," ++
    "105B3-105B9,105BB-105BC,105C0-105F3,10600-10736,10740-10755,10760-10767,10780-10785,10787-10" ++
    "7B0,107B2-107BA,10800-10805,10808-10808,1080A-10835,10837-10838,1083C-1083C,1083F-10855,1086" ++
    "0-10876,10880-1089E,108E0-108F2,108F4-108F5,10900-10915,10920-10939,10980-109B7,109BE-109BF," ++
    "10A00-10A03,10A05-10A06,10A0C-10A13,10A15-10A17,10A19-10A35,10A60-10A7C,10A80-10A9C,10AC0-10" ++
    "AC7,10AC9-10AE4,10B00-10B35,10B40-10B55,10B60-10B72,10B80-10B91,10C00-10C48,10C80-10CB2,10CC" ++
    "0-10CF2,10D00-10D27,10D4A-10D65,10D69-10D69,10D6F-10D85,10E80-10EA9,10EAB-10EAC,10EB0-10EB1," ++
    "10EC2-10EC4,10EFC-10EFC,10F00-10F1C,10F27-10F27,10F30-10F45,10F70-10F81,10FB0-10FC4,10FE0-10" ++
    "FF6,11000-11045,11071-11075,11080-110B8,110C2-110C2,110D0-110E8,11100-11132,11144-11147,1115" ++
    "0-11172,11176-11176,11180-111BF,111C1-111C4,111CE-111CF,111DA-111DA,111DC-111DC,11200-11211," ++
    "11213-11234,11237-11237,1123E-11241,11280-11286,11288-11288,1128A-1128D,1128F-1129D,1129F-11" ++
    "2A8,112B0-112E8,11300-11303,11305-1130C,1130F-11310,11313-11328,1132A-11330,11332-11333,1133" ++
    "5-11339,1133D-11344,11347-11348,1134B-1134C,11350-11350,11357-11357,1135D-11363,11380-11389," ++
    "1138B-1138B,1138E-1138E,11390-113B5,113B7-113C0,113C2-113C2,113C5-113C5,113C7-113CA,113CC-11" ++
    "3CD,113D1-113D1,113D3-113D3,11400-11441,11443-11445,11447-1144A,1145F-11461,11480-114C1,114C" ++
    "4-114C5,114C7-114C7,11580-115B5,115B8-115BE,115D8-115DD,11600-1163E,11640-11640,11644-11644," ++
    "11680-116B5,116B8-116B8,11700-1171A,1171D-1172A,11740-11746,11800-11838,118A0-118DF,118FF-11" ++
    "906,11909-11909,1190C-11913,11915-11916,11918-11935,11937-11938,1193B-1193C,1193F-11942,119A" ++
    "0-119A7,119AA-119D7,119DA-119DF,119E1-119E1,119E3-119E4,11A00-11A32,11A35-11A3E,11A50-11A97," ++
    "11A9D-11A9D,11AB0-11AF8,11BC0-11BE0,11C00-11C08,11C0A-11C36,11C38-11C3E,11C40-11C40,11C72-11" ++
    "C8F,11C92-11CA7,11CA9-11CB6,11D00-11D06,11D08-11D09,11D0B-11D36,11D3A-11D3A,11D3C-11D3D,11D3" ++
    "F-11D41,11D43-11D43,11D46-11D47,11D60-11D65,11D67-11D68,11D6A-11D8E,11D90-11D91,11D93-11D96," ++
    "11D98-11D98,11EE0-11EF6,11F00-11F10,11F12-11F3A,11F3E-11F40,11FB0-11FB0,12000-12399,12400-12" ++
    "46E,12480-12543,12F90-12FF0,13000-1342F,13441-13446,13460-143FA,14400-14646,16100-1612E,1680" ++
    "0-16A38,16A40-16A5E,16A70-16ABE,16AD0-16AED,16B00-16B2F,16B40-16B43,16B63-16B77,16B7D-16B8F," ++
    "16D40-16D6C,16E40-16E7F,16F00-16F4A,16F4F-16F87,16F8F-16F9F,16FE0-16FE1,16FE3-16FE3,16FF0-16" ++
    "FF1,17000-187F7,18800-18CD5,18CFF-18D08,1AFF0-1AFF3,1AFF5-1AFFB,1AFFD-1AFFE,1B000-1B122,1B13" ++
    "2-1B132,1B150-1B152,1B155-1B155,1B164-1B167,1B170-1B2FB,1BC00-1BC6A,1BC70-1BC7C,1BC80-1BC88," ++
    "1BC90-1BC99,1BC9E-1BC9E,1D400-1D454,1D456-1D49C,1D49E-1D49F,1D4A2-1D4A2,1D4A5-1D4A6,1D4A9-1D" ++
    "4AC,1D4AE-1D4B9,1D4BB-1D4BB,1D4BD-1D4C3,1D4C5-1D505,1D507-1D50A,1D50D-1D514,1D516-1D51C,1D51" ++
    "E-1D539,1D53B-1D53E,1D540-1D544,1D546-1D546,1D54A-1D550,1D552-1D6A5,1D6A8-1D6C0,1D6C2-1D6DA," ++
    "1D6DC-1D6FA,1D6FC-1D714,1D716-1D734,1D736-1D74E,1D750-1D76E,1D770-1D788,1D78A-1D7A8,1D7AA-1D" ++
    "7C2,1D7C4-1D7CB,1DF00-1DF1E,1DF25-1DF2A,1E000-1E006,1E008-1E018,1E01B-1E021,1E023-1E024,1E02" ++
    "6-1E02A,1E030-1E06D,1E08F-1E08F,1E100-1E12C,1E137-1E13D,1E14E-1E14E,1E290-1E2AD,1E2C0-1E2EB," ++
    "1E4D0-1E4EB,1E5D0-1E5ED,1E5F0-1E5F0,1E7E0-1E7E6,1E7E8-1E7EB,1E7ED-1E7EE,1E7F0-1E7FE,1E800-1E" ++
    "8C4,1E900-1E943,1E947-1E947,1E94B-1E94B,1EE00-1EE03,1EE05-1EE1F,1EE21-1EE22,1EE24-1EE24,1EE2" ++
    "7-1EE27,1EE29-1EE32,1EE34-1EE37,1EE39-1EE39,1EE3B-1EE3B,1EE42-1EE42,1EE47-1EE47,1EE49-1EE49," ++
    "1EE4B-1EE4B,1EE4D-1EE4F,1EE51-1EE52,1EE54-1EE54,1EE57-1EE57,1EE59-1EE59,1EE5B-1EE5B,1EE5D-1E" ++
    "E5D,1EE5F-1EE5F,1EE61-1EE62,1EE64-1EE64,1EE67-1EE6A,1EE6C-1EE72,1EE74-1EE77,1EE79-1EE7C,1EE7" ++
    "E-1EE7E,1EE80-1EE89,1EE8B-1EE9B,1EEA1-1EEA3,1EEA5-1EEA9,1EEAB-1EEBB,1F130-1F149,1F150-1F169," ++
    "1F170-1F189,20000-2A6DF,2A700-2B739,2B740-2B81D,2B820-2CEA1,2CEB0-2EBE0,2EBF0-2EE5D,2F800-2F" ++
    "A1D,30000-3134A,31350-323AF;AHex,ASCII_Hex_Digit:30-39,41-46,61-66;Bidi_C,Bidi_Control:61C-6" ++
    "1C,200E-200F,202A-202E,2066-2069;Bidi_M,Bidi_Mirrored:28-29,3C-3C,3E-3E,5B-5B,5D-5D,7B-7B,7D" ++
    "-7D,AB-AB,BB-BB,F3A-F3D,169B-169C,2039-203A,2045-2046,207D-207E,208D-208E,2140-2140,2201-220" ++
    "4,2208-220D,2211-2211,2215-2216,221A-221D,221F-2222,2224-2224,2226-2226,222B-2233,2239-2239," ++
    "223B-224C,2252-2255,225F-2260,2262-2262,2264-226B,226D-228C,228F-2292,2298-2298,22A2-22A3,22" ++
    "A6-22B8,22BE-22BF,22C9-22CD,22D0-22D1,22D6-22ED,22F0-22FF,2308-230B,2320-2321,2329-232A,2768" ++
    "-2775,27C0-27C0,27C3-27C6,27C8-27C9,27CB-27CD,27D3-27D6,27DC-27DE,27E2-27EF,2983-2998,299B-2" ++
    "9A0,29A2-29AF,29B8-29B8,29C0-29C5,29C9-29C9,29CE-29D2,29D4-29D5,29D8-29DC,29E1-29E1,29E3-29E" ++
    "5,29E8-29E9,29F4-29F9,29FC-29FD,2A0A-2A1C,2A1E-2A21,2A24-2A24,2A26-2A26,2A29-2A29,2A2B-2A2E," ++
    "2A34-2A35,2A3C-2A3E,2A57-2A58,2A64-2A65,2A6A-2A6D,2A6F-2A70,2A73-2A74,2A79-2AA3,2AA6-2AAD,2A" ++
    "AF-2AD6,2ADC-2ADC,2ADE-2ADE,2AE2-2AE6,2AEC-2AEE,2AF3-2AF3,2AF7-2AFB,2AFD-2AFD,2BFE-2BFE,2E02" ++
    "-2E05,2E09-2E0A,2E0C-2E0D,2E1C-2E1D,2E20-2E29,2E55-2E5C,3008-3011,3014-301B,FE59-FE5E,FE64-F" ++
    "E65,FF08-FF09,FF1C-FF1C,FF1E-FF1E,FF3B-FF3B,FF3D-FF3D,FF5B-FF5B,FF5D-FF5D,FF5F-FF60,FF62-FF6" ++
    "3,1D6DB-1D6DB,1D715-1D715,1D74F-1D74F,1D789-1D789,1D7C3-1D7C3;CI,Case_Ignorable:27-27,2E-2E," ++
    "3A-3A,5E-5E,60-60,A8-A8,AD-AD,AF-AF,B4-B4,B7-B8,2B0-36F,374-375,37A-37A,384-385,387-387,483-" ++
    "489,559-559,55F-55F,591-5BD,5BF-5BF,5C1-5C2,5C4-5C5,5C7-5C7,5F4-5F4,600-605,610-61A,61C-61C," ++
    "640-640,64B-65F,670-670,6D6-6DD,6DF-6E8,6EA-6ED,70F-70F,711-711,730-74A,7A6-7B0,7EB-7F5,7FA-" ++
    "7FA,7FD-7FD,816-82D,859-85B,888-888,890-891,897-89F,8C9-902,93A-93A,93C-93C,941-948,94D-94D," ++
    "951-957,962-963,971-971,981-981,9BC-9BC,9C1-9C4,9CD-9CD,9E2-9E3,9FE-9FE,A01-A02,A3C-A3C,A41-" ++
    "A42,A47-A48,A4B-A4D,A51-A51,A70-A71,A75-A75,A81-A82,ABC-ABC,AC1-AC5,AC7-AC8,ACD-ACD,AE2-AE3," ++
    "AFA-AFF,B01-B01,B3C-B3C,B3F-B3F,B41-B44,B4D-B4D,B55-B56,B62-B63,B82-B82,BC0-BC0,BCD-BCD,C00-" ++
    "C00,C04-C04,C3C-C3C,C3E-C40,C46-C48,C4A-C4D,C55-C56,C62-C63,C81-C81,CBC-CBC,CBF-CBF,CC6-CC6," ++
    "CCC-CCD,CE2-CE3,D00-D01,D3B-D3C,D41-D44,D4D-D4D,D62-D63,D81-D81,DCA-DCA,DD2-DD4,DD6-DD6,E31-" ++
    "E31,E34-E3A,E46-E4E,EB1-EB1,EB4-EBC,EC6-EC6,EC8-ECE,F18-F19,F35-F35,F37-F37,F39-F39,F71-F7E," ++
    "F80-F84,F86-F87,F8D-F97,F99-FBC,FC6-FC6,102D-1030,1032-1037,1039-103A,103D-103E,1058-1059,10" ++
    "5E-1060,1071-1074,1082-1082,1085-1086,108D-108D,109D-109D,10FC-10FC,135D-135F,1712-1714,1732" ++
    "-1733,1752-1753,1772-1773,17B4-17B5,17B7-17BD,17C6-17C6,17C9-17D3,17D7-17D7,17DD-17DD,180B-1" ++
    "80F,1843-1843,1885-1886,18A9-18A9,1920-1922,1927-1928,1932-1932,1939-193B,1A17-1A18,1A1B-1A1" ++
    "B,1A56-1A56,1A58-1A5E,1A60-1A60,1A62-1A62,1A65-1A6C,1A73-1A7C,1A7F-1A7F,1AA7-1AA7,1AB0-1ACE," ++
    "1B00-1B03,1B34-1B34,1B36-1B3A,1B3C-1B3C,1B42-1B42,1B6B-1B73,1B80-1B81,1BA2-1BA5,1BA8-1BA9,1B" ++
    "AB-1BAD,1BE6-1BE6,1BE8-1BE9,1BED-1BED,1BEF-1BF1,1C2C-1C33,1C36-1C37,1C78-1C7D,1CD0-1CD2,1CD4" ++
    "-1CE0,1CE2-1CE8,1CED-1CED,1CF4-1CF4,1CF8-1CF9,1D2C-1D6A,1D78-1D78,1D9B-1DFF,1FBD-1FBD,1FBF-1" ++
    "FC1,1FCD-1FCF,1FDD-1FDF,1FED-1FEF,1FFD-1FFE,200B-200F,2018-2019,2024-2024,2027-2027,202A-202" ++
    "E,2060-2064,2066-206F,2071-2071,207F-207F,2090-209C,20D0-20F0,2C7C-2C7D,2CEF-2CF1,2D6F-2D6F," ++
    "2D7F-2D7F,2DE0-2DFF,2E2F-2E2F,3005-3005,302A-302D,3031-3035,303B-303B,3099-309E,30FC-30FE,A0" ++
    "15-A015,A4F8-A4FD,A60C-A60C,A66F-A672,A674-A67D,A67F-A67F,A69C-A69F,A6F0-A6F1,A700-A721,A770" ++
    "-A770,A788-A78A,A7F2-A7F4,A7F8-A7F9,A802-A802,A806-A806,A80B-A80B,A825-A826,A82C-A82C,A8C4-A" ++
    "8C5,A8E0-A8F1,A8FF-A8FF,A926-A92D,A947-A951,A980-A982,A9B3-A9B3,A9B6-A9B9,A9BC-A9BD,A9CF-A9C" ++
    "F,A9E5-A9E6,AA29-AA2E,AA31-AA32,AA35-AA36,AA43-AA43,AA4C-AA4C,AA70-AA70,AA7C-AA7C,AAB0-AAB0," ++
    "AAB2-AAB4,AAB7-AAB8,AABE-AABF,AAC1-AAC1,AADD-AADD,AAEC-AAED,AAF3-AAF4,AAF6-AAF6,AB5B-AB5F,AB" ++
    "69-AB6B,ABE5-ABE5,ABE8-ABE8,ABED-ABED,FB1E-FB1E,FBB2-FBC2,FE00-FE0F,FE13-FE13,FE20-FE2F,FE52" ++
    "-FE52,FE55-FE55,FEFF-FEFF,FF07-FF07,FF0E-FF0E,FF1A-FF1A,FF3E-FF3E,FF40-FF40,FF70-FF70,FF9E-F" ++
    "F9F,FFE3-FFE3,FFF9-FFFB,101FD-101FD,102E0-102E0,10376-1037A,10780-10785,10787-107B0,107B2-10" ++
    "7BA,10A01-10A03,10A05-10A06,10A0C-10A0F,10A38-10A3A,10A3F-10A3F,10AE5-10AE6,10D24-10D27,10D4" ++
    "E-10D4E,10D69-10D6D,10D6F-10D6F,10EAB-10EAC,10EFC-10EFF,10F46-10F50,10F82-10F85,11001-11001," ++
    "11038-11046,11070-11070,11073-11074,1107F-11081,110B3-110B6,110B9-110BA,110BD-110BD,110C2-11" ++
    "0C2,110CD-110CD,11100-11102,11127-1112B,1112D-11134,11173-11173,11180-11181,111B6-111BE,111C" ++
    "9-111CC,111CF-111CF,1122F-11231,11234-11234,11236-11237,1123E-1123E,11241-11241,112DF-112DF," ++
    "112E3-112EA,11300-11301,1133B-1133C,11340-11340,11366-1136C,11370-11374,113BB-113C0,113CE-11" ++
    "3CE,113D0-113D0,113D2-113D2,113E1-113E2,11438-1143F,11442-11444,11446-11446,1145E-1145E,114B" ++
    "3-114B8,114BA-114BA,114BF-114C0,114C2-114C3,115B2-115B5,115BC-115BD,115BF-115C0,115DC-115DD," ++
    "11633-1163A,1163D-1163D,1163F-11640,116AB-116AB,116AD-116AD,116B0-116B5,116B7-116B7,1171D-11" ++
    "71D,1171F-1171F,11722-11725,11727-1172B,1182F-11837,11839-1183A,1193B-1193C,1193E-1193E,1194" ++
    "3-11943,119D4-119D7,119DA-119DB,119E0-119E0,11A01-11A0A,11A33-11A38,11A3B-11A3E,11A47-11A47," ++
    "11A51-11A56,11A59-11A5B,11A8A-11A96,11A98-11A99,11C30-11C36,11C38-11C3D,11C3F-11C3F,11C92-11" ++
    "CA7,11CAA-11CB0,11CB2-11CB3,11CB5-11CB6,11D31-11D36,11D3A-11D3A,11D3C-11D3D,11D3F-11D45,11D4" ++
    "7-11D47,11D90-11D91,11D95-11D95,11D97-11D97,11EF3-11EF4,11F00-11F01,11F36-11F3A,11F40-11F40," ++
    "11F42-11F42,11F5A-11F5A,13430-13440,13447-13455,1611E-16129,1612D-1612F,16AF0-16AF4,16B30-16" ++
    "B36,16B40-16B43,16D40-16D42,16D6B-16D6C,16F4F-16F4F,16F8F-16F9F,16FE0-16FE1,16FE3-16FE4,1AFF" ++
    "0-1AFF3,1AFF5-1AFFB,1AFFD-1AFFE,1BC9D-1BC9E,1BCA0-1BCA3,1CF00-1CF2D,1CF30-1CF46,1D167-1D169," ++
    "1D173-1D182,1D185-1D18B,1D1AA-1D1AD,1D242-1D244,1DA00-1DA36,1DA3B-1DA6C,1DA75-1DA75,1DA84-1D" ++
    "A84,1DA9B-1DA9F,1DAA1-1DAAF,1E000-1E006,1E008-1E018,1E01B-1E021,1E023-1E024,1E026-1E02A,1E03" ++
    "0-1E06D,1E08F-1E08F,1E130-1E13D,1E2AE-1E2AE,1E2EC-1E2EF,1E4EB-1E4EF,1E5EE-1E5EF,1E8D0-1E8D6," ++
    "1E944-1E94B,1F3FB-1F3FF,E0001-E0001,E0020-E007F,E0100-E01EF;Cased:41-5A,61-7A,AA-AA,B5-B5,BA" ++
    "-BA,C0-D6,D8-F6,F8-1BA,1BC-1BF,1C4-293,296-2B8,2C0-2C1,2E0-2E4,345-345,370-373,376-377,37A-3" ++
    "7D,37F-37F,386-386,388-38A,38C-38C,38E-3A1,3A3-3F5,3F7-481,48A-52F,531-556,560-588,10A0-10C5" ++
    ",10C7-10C7,10CD-10CD,10D0-10FA,10FC-10FF,13A0-13F5,13F8-13FD,1C80-1C8A,1C90-1CBA,1CBD-1CBF,1" ++
    "D00-1DBF,1E00-1F15,1F18-1F1D,1F20-1F45,1F48-1F4D,1F50-1F57,1F59-1F59,1F5B-1F5B,1F5D-1F5D,1F5" ++
    "F-1F7D,1F80-1FB4,1FB6-1FBC,1FBE-1FBE,1FC2-1FC4,1FC6-1FCC,1FD0-1FD3,1FD6-1FDB,1FE0-1FEC,1FF2-" ++
    "1FF4,1FF6-1FFC,2071-2071,207F-207F,2090-209C,2102-2102,2107-2107,210A-2113,2115-2115,2119-21" ++
    "1D,2124-2124,2126-2126,2128-2128,212A-212D,212F-2134,2139-2139,213C-213F,2145-2149,214E-214E" ++
    ",2160-217F,2183-2184,24B6-24E9,2C00-2CE4,2CEB-2CEE,2CF2-2CF3,2D00-2D25,2D27-2D27,2D2D-2D2D,A" ++
    "640-A66D,A680-A69D,A722-A787,A78B-A78E,A790-A7CD,A7D0-A7D1,A7D3-A7D3,A7D5-A7DC,A7F2-A7F6,A7F" ++
    "8-A7FA,AB30-AB5A,AB5C-AB69,AB70-ABBF,FB00-FB06,FB13-FB17,FF21-FF3A,FF41-FF5A,10400-1044F,104" ++
    "B0-104D3,104D8-104FB,10570-1057A,1057C-1058A,1058C-10592,10594-10595,10597-105A1,105A3-105B1" ++
    ",105B3-105B9,105BB-105BC,10780-10780,10783-10785,10787-107B0,107B2-107BA,10C80-10CB2,10CC0-1" ++
    "0CF2,10D50-10D65,10D70-10D85,118A0-118DF,16E40-16E7F,1D400-1D454,1D456-1D49C,1D49E-1D49F,1D4" ++
    "A2-1D4A2,1D4A5-1D4A6,1D4A9-1D4AC,1D4AE-1D4B9,1D4BB-1D4BB,1D4BD-1D4C3,1D4C5-1D505,1D507-1D50A" ++
    ",1D50D-1D514,1D516-1D51C,1D51E-1D539,1D53B-1D53E,1D540-1D544,1D546-1D546,1D54A-1D550,1D552-1" ++
    "D6A5,1D6A8-1D6C0,1D6C2-1D6DA,1D6DC-1D6FA,1D6FC-1D714,1D716-1D734,1D736-1D74E,1D750-1D76E,1D7" ++
    "70-1D788,1D78A-1D7A8,1D7AA-1D7C2,1D7C4-1D7CB,1DF00-1DF09,1DF0B-1DF1E,1DF25-1DF2A,1E030-1E06D" ++
    ",1E900-1E943,1F130-1F149,1F150-1F169,1F170-1F189;CWCF,Changes_When_Casefolded:41-5A,B5-B5,C0" ++
    "-D6,D8-DF,100-100,102-102,104-104,106-106,108-108,10A-10A,10C-10C,10E-10E,110-110,112-112,11" ++
    "4-114,116-116,118-118,11A-11A,11C-11C,11E-11E,120-120,122-122,124-124,126-126,128-128,12A-12" ++
    "A,12C-12C,12E-12E,130-130,132-132,134-134,136-136,139-139,13B-13B,13D-13D,13F-13F,141-141,14" ++
    "3-143,145-145,147-147,149-14A,14C-14C,14E-14E,150-150,152-152,154-154,156-156,158-158,15A-15" ++
    "A,15C-15C,15E-15E,160-160,162-162,164-164,166-166,168-168,16A-16A,16C-16C,16E-16E,170-170,17" ++
    "2-172,174-174,176-176,178-179,17B-17B,17D-17D,17F-17F,181-182,184-184,186-187,189-18B,18E-19" ++
    "1,193-194,196-198,19C-19D,19F-1A0,1A2-1A2,1A4-1A4,1A6-1A7,1A9-1A9,1AC-1AC,1AE-1AF,1B1-1B3,1B" ++
    "5-1B5,1B7-1B8,1BC-1BC,1C4-1C5,1C7-1C8,1CA-1CB,1CD-1CD,1CF-1CF,1D1-1D1,1D3-1D3,1D5-1D5,1D7-1D" ++
    "7,1D9-1D9,1DB-1DB,1DE-1DE,1E0-1E0,1E2-1E2,1E4-1E4,1E6-1E6,1E8-1E8,1EA-1EA,1EC-1EC,1EE-1EE,1F" ++
    "1-1F2,1F4-1F4,1F6-1F8,1FA-1FA,1FC-1FC,1FE-1FE,200-200,202-202,204-204,206-206,208-208,20A-20" ++
    "A,20C-20C,20E-20E,210-210,212-212,214-214,216-216,218-218,21A-21A,21C-21C,21E-21E,220-220,22" ++
    "2-222,224-224,226-226,228-228,22A-22A,22C-22C,22E-22E,230-230,232-232,23A-23B,23D-23E,241-24" ++
    "1,243-246,248-248,24A-24A,24C-24C,24E-24E,345-345,370-370,372-372,376-376,37F-37F,386-386,38" ++
    "8-38A,38C-38C,38E-38F,391-3A1,3A3-3AB,3C2-3C2,3CF-3D1,3D5-3D6,3D8-3D8,3DA-3DA,3DC-3DC,3DE-3D" ++
    "E,3E0-3E0,3E2-3E2,3E4-3E4,3E6-3E6,3E8-3E8,3EA-3EA,3EC-3EC,3EE-3EE,3F0-3F1,3F4-3F5,3F7-3F7,3F" ++
    "9-3FA,3FD-42F,460-460,462-462,464-464,466-466,468-468,46A-46A,46C-46C,46E-46E,470-470,472-47" ++
    "2,474-474,476-476,478-478,47A-47A,47C-47C,47E-47E,480-480,48A-48A,48C-48C,48E-48E,490-490,49" ++
    "2-492,494-494,496-496,498-498,49A-49A,49C-49C,49E-49E,4A0-4A0,4A2-4A2,4A4-4A4,4A6-4A6,4A8-4A" ++
    "8,4AA-4AA,4AC-4AC,4AE-4AE,4B0-4B0,4B2-4B2,4B4-4B4,4B6-4B6,4B8-4B8,4BA-4BA,4BC-4BC,4BE-4BE,4C" ++
    "0-4C1,4C3-4C3,4C5-4C5,4C7-4C7,4C9-4C9,4CB-4CB,4CD-4CD,4D0-4D0,4D2-4D2,4D4-4D4,4D6-4D6,4D8-4D" ++
    "8,4DA-4DA,4DC-4DC,4DE-4DE,4E0-4E0,4E2-4E2,4E4-4E4,4E6-4E6,4E8-4E8,4EA-4EA,4EC-4EC,4EE-4EE,4F" ++
    "0-4F0,4F2-4F2,4F4-4F4,4F6-4F6,4F8-4F8,4FA-4FA,4FC-4FC,4FE-4FE,500-500,502-502,504-504,506-50" ++
    "6,508-508,50A-50A,50C-50C,50E-50E,510-510,512-512,514-514,516-516,518-518,51A-51A,51C-51C,51" ++
    "E-51E,520-520,522-522,524-524,526-526,528-528,52A-52A,52C-52C,52E-52E,531-556,587-587,10A0-1" ++
    "0C5,10C7-10C7,10CD-10CD,13F8-13FD,1C80-1C89,1C90-1CBA,1CBD-1CBF,1E00-1E00,1E02-1E02,1E04-1E0" ++
    "4,1E06-1E06,1E08-1E08,1E0A-1E0A,1E0C-1E0C,1E0E-1E0E,1E10-1E10,1E12-1E12,1E14-1E14,1E16-1E16," ++
    "1E18-1E18,1E1A-1E1A,1E1C-1E1C,1E1E-1E1E,1E20-1E20,1E22-1E22,1E24-1E24,1E26-1E26,1E28-1E28,1E" ++
    "2A-1E2A,1E2C-1E2C,1E2E-1E2E,1E30-1E30,1E32-1E32,1E34-1E34,1E36-1E36,1E38-1E38,1E3A-1E3A,1E3C" ++
    "-1E3C,1E3E-1E3E,1E40-1E40,1E42-1E42,1E44-1E44,1E46-1E46,1E48-1E48,1E4A-1E4A,1E4C-1E4C,1E4E-1" ++
    "E4E,1E50-1E50,1E52-1E52,1E54-1E54,1E56-1E56,1E58-1E58,1E5A-1E5A,1E5C-1E5C,1E5E-1E5E,1E60-1E6" ++
    "0,1E62-1E62,1E64-1E64,1E66-1E66,1E68-1E68,1E6A-1E6A,1E6C-1E6C,1E6E-1E6E,1E70-1E70,1E72-1E72," ++
    "1E74-1E74,1E76-1E76,1E78-1E78,1E7A-1E7A,1E7C-1E7C,1E7E-1E7E,1E80-1E80,1E82-1E82,1E84-1E84,1E" ++
    "86-1E86,1E88-1E88,1E8A-1E8A,1E8C-1E8C,1E8E-1E8E,1E90-1E90,1E92-1E92,1E94-1E94,1E9A-1E9B,1E9E" ++
    "-1E9E,1EA0-1EA0,1EA2-1EA2,1EA4-1EA4,1EA6-1EA6,1EA8-1EA8,1EAA-1EAA,1EAC-1EAC,1EAE-1EAE,1EB0-1" ++
    "EB0,1EB2-1EB2,1EB4-1EB4,1EB6-1EB6,1EB8-1EB8,1EBA-1EBA,1EBC-1EBC,1EBE-1EBE,1EC0-1EC0,1EC2-1EC" ++
    "2,1EC4-1EC4,1EC6-1EC6,1EC8-1EC8,1ECA-1ECA,1ECC-1ECC,1ECE-1ECE,1ED0-1ED0,1ED2-1ED2,1ED4-1ED4," ++
    "1ED6-1ED6,1ED8-1ED8,1EDA-1EDA,1EDC-1EDC,1EDE-1EDE,1EE0-1EE0,1EE2-1EE2,1EE4-1EE4,1EE6-1EE6,1E" ++
    "E8-1EE8,1EEA-1EEA,1EEC-1EEC,1EEE-1EEE,1EF0-1EF0,1EF2-1EF2,1EF4-1EF4,1EF6-1EF6,1EF8-1EF8,1EFA" ++
    "-1EFA,1EFC-1EFC,1EFE-1EFE,1F08-1F0F,1F18-1F1D,1F28-1F2F,1F38-1F3F,1F48-1F4D,1F59-1F59,1F5B-1" ++
    "F5B,1F5D-1F5D,1F5F-1F5F,1F68-1F6F,1F80-1FAF,1FB2-1FB4,1FB7-1FBC,1FC2-1FC4,1FC7-1FCC,1FD8-1FD" ++
    "B,1FE8-1FEC,1FF2-1FF4,1FF7-1FFC,2126-2126,212A-212B,2132-2132,2160-216F,2183-2183,24B6-24CF," ++
    "2C00-2C2F,2C60-2C60,2C62-2C64,2C67-2C67,2C69-2C69,2C6B-2C6B,2C6D-2C70,2C72-2C72,2C75-2C75,2C" ++
    "7E-2C80,2C82-2C82,2C84-2C84,2C86-2C86,2C88-2C88,2C8A-2C8A,2C8C-2C8C,2C8E-2C8E,2C90-2C90,2C92" ++
    "-2C92,2C94-2C94,2C96-2C96,2C98-2C98,2C9A-2C9A,2C9C-2C9C,2C9E-2C9E,2CA0-2CA0,2CA2-2CA2,2CA4-2" ++
    "CA4,2CA6-2CA6,2CA8-2CA8,2CAA-2CAA,2CAC-2CAC,2CAE-2CAE,2CB0-2CB0,2CB2-2CB2,2CB4-2CB4,2CB6-2CB" ++
    "6,2CB8-2CB8,2CBA-2CBA,2CBC-2CBC,2CBE-2CBE,2CC0-2CC0,2CC2-2CC2,2CC4-2CC4,2CC6-2CC6,2CC8-2CC8," ++
    "2CCA-2CCA,2CCC-2CCC,2CCE-2CCE,2CD0-2CD0,2CD2-2CD2,2CD4-2CD4,2CD6-2CD6,2CD8-2CD8,2CDA-2CDA,2C" ++
    "DC-2CDC,2CDE-2CDE,2CE0-2CE0,2CE2-2CE2,2CEB-2CEB,2CED-2CED,2CF2-2CF2,A640-A640,A642-A642,A644" ++
    "-A644,A646-A646,A648-A648,A64A-A64A,A64C-A64C,A64E-A64E,A650-A650,A652-A652,A654-A654,A656-A" ++
    "656,A658-A658,A65A-A65A,A65C-A65C,A65E-A65E,A660-A660,A662-A662,A664-A664,A666-A666,A668-A66" ++
    "8,A66A-A66A,A66C-A66C,A680-A680,A682-A682,A684-A684,A686-A686,A688-A688,A68A-A68A,A68C-A68C," ++
    "A68E-A68E,A690-A690,A692-A692,A694-A694,A696-A696,A698-A698,A69A-A69A,A722-A722,A724-A724,A7" ++
    "26-A726,A728-A728,A72A-A72A,A72C-A72C,A72E-A72E,A732-A732,A734-A734,A736-A736,A738-A738,A73A" ++
    "-A73A,A73C-A73C,A73E-A73E,A740-A740,A742-A742,A744-A744,A746-A746,A748-A748,A74A-A74A,A74C-A" ++
    "74C,A74E-A74E,A750-A750,A752-A752,A754-A754,A756-A756,A758-A758,A75A-A75A,A75C-A75C,A75E-A75" ++
    "E,A760-A760,A762-A762,A764-A764,A766-A766,A768-A768,A76A-A76A,A76C-A76C,A76E-A76E,A779-A779," ++
    "A77B-A77B,A77D-A77E,A780-A780,A782-A782,A784-A784,A786-A786,A78B-A78B,A78D-A78D,A790-A790,A7" ++
    "92-A792,A796-A796,A798-A798,A79A-A79A,A79C-A79C,A79E-A79E,A7A0-A7A0,A7A2-A7A2,A7A4-A7A4,A7A6" ++
    "-A7A6,A7A8-A7A8,A7AA-A7AE,A7B0-A7B4,A7B6-A7B6,A7B8-A7B8,A7BA-A7BA,A7BC-A7BC,A7BE-A7BE,A7C0-A" ++
    "7C0,A7C2-A7C2,A7C4-A7C7,A7C9-A7C9,A7CB-A7CC,A7D0-A7D0,A7D6-A7D6,A7D8-A7D8,A7DA-A7DA,A7DC-A7D" ++
    "C,A7F5-A7F5,AB70-ABBF,FB00-FB06,FB13-FB17,FF21-FF3A,10400-10427,104B0-104D3,10570-1057A,1057" ++
    "C-1058A,1058C-10592,10594-10595,10C80-10CB2,10D50-10D65,118A0-118BF,16E40-16E5F,1E900-1E921;" ++
    "CWCM,Changes_When_Casemapped:41-5A,61-7A,B5-B5,C0-D6,D8-F6,F8-137,139-18C,18E-1A9,1AC-1B9,1B" ++
    "C-1BD,1BF-1BF,1C4-220,222-233,23A-254,256-257,259-259,25B-25C,260-261,263-266,268-26C,26F-26" ++
    "F,271-272,275-275,27D-27D,280-280,282-283,287-28C,292-292,29D-29E,345-345,370-373,376-377,37" ++
    "B-37D,37F-37F,386-386,388-38A,38C-38C,38E-3A1,3A3-3D1,3D5-3F5,3F7-3FB,3FD-481,48A-52F,531-55" ++
    "6,561-587,10A0-10C5,10C7-10C7,10CD-10CD,10D0-10FA,10FD-10FF,13A0-13F5,13F8-13FD,1C80-1C8A,1C" ++
    "90-1CBA,1CBD-1CBF,1D79-1D79,1D7D-1D7D,1D8E-1D8E,1E00-1E9B,1E9E-1E9E,1EA0-1F15,1F18-1F1D,1F20" ++
    "-1F45,1F48-1F4D,1F50-1F57,1F59-1F59,1F5B-1F5B,1F5D-1F5D,1F5F-1F7D,1F80-1FB4,1FB6-1FBC,1FBE-1" ++
    "FBE,1FC2-1FC4,1FC6-1FCC,1FD0-1FD3,1FD6-1FDB,1FE0-1FEC,1FF2-1FF4,1FF6-1FFC,2126-2126,212A-212" ++
    "B,2132-2132,214E-214E,2160-217F,2183-2184,24B6-24E9,2C00-2C70,2C72-2C73,2C75-2C76,2C7E-2CE3," ++
    "2CEB-2CEE,2CF2-2CF3,2D00-2D25,2D27-2D27,2D2D-2D2D,A640-A66D,A680-A69B,A722-A72F,A732-A76F,A7" ++
    "79-A787,A78B-A78D,A790-A794,A796-A7AE,A7B0-A7CD,A7D0-A7D1,A7D3-A7D3,A7D5-A7DC,A7F5-A7F6,AB53" ++
    "-AB53,AB70-ABBF,FB00-FB06,FB13-FB17,FF21-FF3A,FF41-FF5A,10400-1044F,104B0-104D3,104D8-104FB," ++
    "10570-1057A,1057C-1058A,1058C-10592,10594-10595,10597-105A1,105A3-105B1,105B3-105B9,105BB-10" ++
    "5BC,10C80-10CB2,10CC0-10CF2,10D50-10D65,10D70-10D85,118A0-118DF,16E40-16E7F,1E900-1E943;CWL," ++
    "Changes_When_Lowercased:41-5A,C0-D6,D8-DE,100-100,102-102,104-104,106-106,108-108,10A-10A,10" ++
    "C-10C,10E-10E,110-110,112-112,114-114,116-116,118-118,11A-11A,11C-11C,11E-11E,120-120,122-12" ++
    "2,124-124,126-126,128-128,12A-12A,12C-12C,12E-12E,130-130,132-132,134-134,136-136,139-139,13" ++
    "B-13B,13D-13D,13F-13F,141-141,143-143,145-145,147-147,14A-14A,14C-14C,14E-14E,150-150,152-15" ++
    "2,154-154,156-156,158-158,15A-15A,15C-15C,15E-15E,160-160,162-162,164-164,166-166,168-168,16" ++
    "A-16A,16C-16C,16E-16E,170-170,172-172,174-174,176-176,178-179,17B-17B,17D-17D,181-182,184-18" ++
    "4,186-187,189-18B,18E-191,193-194,196-198,19C-19D,19F-1A0,1A2-1A2,1A4-1A4,1A6-1A7,1A9-1A9,1A" ++
    "C-1AC,1AE-1AF,1B1-1B3,1B5-1B5,1B7-1B8,1BC-1BC,1C4-1C5,1C7-1C8,1CA-1CB,1CD-1CD,1CF-1CF,1D1-1D" ++
    "1,1D3-1D3,1D5-1D5,1D7-1D7,1D9-1D9,1DB-1DB,1DE-1DE,1E0-1E0,1E2-1E2,1E4-1E4,1E6-1E6,1E8-1E8,1E" ++
    "A-1EA,1EC-1EC,1EE-1EE,1F1-1F2,1F4-1F4,1F6-1F8,1FA-1FA,1FC-1FC,1FE-1FE,200-200,202-202,204-20" ++
    "4,206-206,208-208,20A-20A,20C-20C,20E-20E,210-210,212-212,214-214,216-216,218-218,21A-21A,21" ++
    "C-21C,21E-21E,220-220,222-222,224-224,226-226,228-228,22A-22A,22C-22C,22E-22E,230-230,232-23" ++
    "2,23A-23B,23D-23E,241-241,243-246,248-248,24A-24A,24C-24C,24E-24E,370-370,372-372,376-376,37" ++
    "F-37F,386-386,388-38A,38C-38C,38E-38F,391-3A1,3A3-3AB,3CF-3CF,3D8-3D8,3DA-3DA,3DC-3DC,3DE-3D" ++
    "E,3E0-3E0,3E2-3E2,3E4-3E4,3E6-3E6,3E8-3E8,3EA-3EA,3EC-3EC,3EE-3EE,3F4-3F4,3F7-3F7,3F9-3FA,3F" ++
    "D-42F,460-460,462-462,464-464,466-466,468-468,46A-46A,46C-46C,46E-46E,470-470,472-472,474-47" ++
    "4,476-476,478-478,47A-47A,47C-47C,47E-47E,480-480,48A-48A,48C-48C,48E-48E,490-490,492-492,49" ++
    "4-494,496-496,498-498,49A-49A,49C-49C,49E-49E,4A0-4A0,4A2-4A2,4A4-4A4,4A6-4A6,4A8-4A8,4AA-4A" ++
    "A,4AC-4AC,4AE-4AE,4B0-4B0,4B2-4B2,4B4-4B4,4B6-4B6,4B8-4B8,4BA-4BA,4BC-4BC,4BE-4BE,4C0-4C1,4C" ++
    "3-4C3,4C5-4C5,4C7-4C7,4C9-4C9,4CB-4CB,4CD-4CD,4D0-4D0,4D2-4D2,4D4-4D4,4D6-4D6,4D8-4D8,4DA-4D" ++
    "A,4DC-4DC,4DE-4DE,4E0-4E0,4E2-4E2,4E4-4E4,4E6-4E6,4E8-4E8,4EA-4EA,4EC-4EC,4EE-4EE,4F0-4F0,4F" ++
    "2-4F2,4F4-4F4,4F6-4F6,4F8-4F8,4FA-4FA,4FC-4FC,4FE-4FE,500-500,502-502,504-504,506-506,508-50" ++
    "8,50A-50A,50C-50C,50E-50E,510-510,512-512,514-514,516-516,518-518,51A-51A,51C-51C,51E-51E,52" ++
    "0-520,522-522,524-524,526-526,528-528,52A-52A,52C-52C,52E-52E,531-556,10A0-10C5,10C7-10C7,10" ++
    "CD-10CD,13A0-13F5,1C89-1C89,1C90-1CBA,1CBD-1CBF,1E00-1E00,1E02-1E02,1E04-1E04,1E06-1E06,1E08" ++
    "-1E08,1E0A-1E0A,1E0C-1E0C,1E0E-1E0E,1E10-1E10,1E12-1E12,1E14-1E14,1E16-1E16,1E18-1E18,1E1A-1" ++
    "E1A,1E1C-1E1C,1E1E-1E1E,1E20-1E20,1E22-1E22,1E24-1E24,1E26-1E26,1E28-1E28,1E2A-1E2A,1E2C-1E2" ++
    "C,1E2E-1E2E,1E30-1E30,1E32-1E32,1E34-1E34,1E36-1E36,1E38-1E38,1E3A-1E3A,1E3C-1E3C,1E3E-1E3E," ++
    "1E40-1E40,1E42-1E42,1E44-1E44,1E46-1E46,1E48-1E48,1E4A-1E4A,1E4C-1E4C,1E4E-1E4E,1E50-1E50,1E" ++
    "52-1E52,1E54-1E54,1E56-1E56,1E58-1E58,1E5A-1E5A,1E5C-1E5C,1E5E-1E5E,1E60-1E60,1E62-1E62,1E64" ++
    "-1E64,1E66-1E66,1E68-1E68,1E6A-1E6A,1E6C-1E6C,1E6E-1E6E,1E70-1E70,1E72-1E72,1E74-1E74,1E76-1" ++
    "E76,1E78-1E78,1E7A-1E7A,1E7C-1E7C,1E7E-1E7E,1E80-1E80,1E82-1E82,1E84-1E84,1E86-1E86,1E88-1E8" ++
    "8,1E8A-1E8A,1E8C-1E8C,1E8E-1E8E,1E90-1E90,1E92-1E92,1E94-1E94,1E9E-1E9E,1EA0-1EA0,1EA2-1EA2," ++
    "1EA4-1EA4,1EA6-1EA6,1EA8-1EA8,1EAA-1EAA,1EAC-1EAC,1EAE-1EAE,1EB0-1EB0,1EB2-1EB2,1EB4-1EB4,1E" ++
    "B6-1EB6,1EB8-1EB8,1EBA-1EBA,1EBC-1EBC,1EBE-1EBE,1EC0-1EC0,1EC2-1EC2,1EC4-1EC4,1EC6-1EC6,1EC8" ++
    "-1EC8,1ECA-1ECA,1ECC-1ECC,1ECE-1ECE,1ED0-1ED0,1ED2-1ED2,1ED4-1ED4,1ED6-1ED6,1ED8-1ED8,1EDA-1" ++
    "EDA,1EDC-1EDC,1EDE-1EDE,1EE0-1EE0,1EE2-1EE2,1EE4-1EE4,1EE6-1EE6,1EE8-1EE8,1EEA-1EEA,1EEC-1EE" ++
    "C,1EEE-1EEE,1EF0-1EF0,1EF2-1EF2,1EF4-1EF4,1EF6-1EF6,1EF8-1EF8,1EFA-1EFA,1EFC-1EFC,1EFE-1EFE," ++
    "1F08-1F0F,1F18-1F1D,1F28-1F2F,1F38-1F3F,1F48-1F4D,1F59-1F59,1F5B-1F5B,1F5D-1F5D,1F5F-1F5F,1F" ++
    "68-1F6F,1F88-1F8F,1F98-1F9F,1FA8-1FAF,1FB8-1FBC,1FC8-1FCC,1FD8-1FDB,1FE8-1FEC,1FF8-1FFC,2126" ++
    "-2126,212A-212B,2132-2132,2160-216F,2183-2183,24B6-24CF,2C00-2C2F,2C60-2C60,2C62-2C64,2C67-2" ++
    "C67,2C69-2C69,2C6B-2C6B,2C6D-2C70,2C72-2C72,2C75-2C75,2C7E-2C80,2C82-2C82,2C84-2C84,2C86-2C8" ++
    "6,2C88-2C88,2C8A-2C8A,2C8C-2C8C,2C8E-2C8E,2C90-2C90,2C92-2C92,2C94-2C94,2C96-2C96,2C98-2C98," ++
    "2C9A-2C9A,2C9C-2C9C,2C9E-2C9E,2CA0-2CA0,2CA2-2CA2,2CA4-2CA4,2CA6-2CA6,2CA8-2CA8,2CAA-2CAA,2C" ++
    "AC-2CAC,2CAE-2CAE,2CB0-2CB0,2CB2-2CB2,2CB4-2CB4,2CB6-2CB6,2CB8-2CB8,2CBA-2CBA,2CBC-2CBC,2CBE" ++
    "-2CBE,2CC0-2CC0,2CC2-2CC2,2CC4-2CC4,2CC6-2CC6,2CC8-2CC8,2CCA-2CCA,2CCC-2CCC,2CCE-2CCE,2CD0-2" ++
    "CD0,2CD2-2CD2,2CD4-2CD4,2CD6-2CD6,2CD8-2CD8,2CDA-2CDA,2CDC-2CDC,2CDE-2CDE,2CE0-2CE0,2CE2-2CE" ++
    "2,2CEB-2CEB,2CED-2CED,2CF2-2CF2,A640-A640,A642-A642,A644-A644,A646-A646,A648-A648,A64A-A64A," ++
    "A64C-A64C,A64E-A64E,A650-A650,A652-A652,A654-A654,A656-A656,A658-A658,A65A-A65A,A65C-A65C,A6" ++
    "5E-A65E,A660-A660,A662-A662,A664-A664,A666-A666,A668-A668,A66A-A66A,A66C-A66C,A680-A680,A682" ++
    "-A682,A684-A684,A686-A686,A688-A688,A68A-A68A,A68C-A68C,A68E-A68E,A690-A690,A692-A692,A694-A" ++
    "694,A696-A696,A698-A698,A69A-A69A,A722-A722,A724-A724,A726-A726,A728-A728,A72A-A72A,A72C-A72" ++
    "C,A72E-A72E,A732-A732,A734-A734,A736-A736,A738-A738,A73A-A73A,A73C-A73C,A73E-A73E,A740-A740," ++
    "A742-A742,A744-A744,A746-A746,A748-A748,A74A-A74A,A74C-A74C,A74E-A74E,A750-A750,A752-A752,A7" ++
    "54-A754,A756-A756,A758-A758,A75A-A75A,A75C-A75C,A75E-A75E,A760-A760,A762-A762,A764-A764,A766" ++
    "-A766,A768-A768,A76A-A76A,A76C-A76C,A76E-A76E,A779-A779,A77B-A77B,A77D-A77E,A780-A780,A782-A" ++
    "782,A784-A784,A786-A786,A78B-A78B,A78D-A78D,A790-A790,A792-A792,A796-A796,A798-A798,A79A-A79" ++
    "A,A79C-A79C,A79E-A79E,A7A0-A7A0,A7A2-A7A2,A7A4-A7A4,A7A6-A7A6,A7A8-A7A8,A7AA-A7AE,A7B0-A7B4," ++
    "A7B6-A7B6,A7B8-A7B8,A7BA-A7BA,A7BC-A7BC,A7BE-A7BE,A7C0-A7C0,A7C2-A7C2,A7C4-A7C7,A7C9-A7C9,A7" ++
    "CB-A7CC,A7D0-A7D0,A7D6-A7D6,A7D8-A7D8,A7DA-A7DA,A7DC-A7DC,A7F5-A7F5,FF21-FF3A,10400-10427,10" ++
    "4B0-104D3,10570-1057A,1057C-1058A,1058C-10592,10594-10595,10C80-10CB2,10D50-10D65,118A0-118B" ++
    "F,16E40-16E5F,1E900-1E921;CWT,Changes_When_Titlecased:61-7A,B5-B5,DF-F6,F8-FF,101-101,103-10" ++
    "3,105-105,107-107,109-109,10B-10B,10D-10D,10F-10F,111-111,113-113,115-115,117-117,119-119,11" ++
    "B-11B,11D-11D,11F-11F,121-121,123-123,125-125,127-127,129-129,12B-12B,12D-12D,12F-12F,131-13" ++
    "1,133-133,135-135,137-137,13A-13A,13C-13C,13E-13E,140-140,142-142,144-144,146-146,148-149,14" ++
    "B-14B,14D-14D,14F-14F,151-151,153-153,155-155,157-157,159-159,15B-15B,15D-15D,15F-15F,161-16" ++
    "1,163-163,165-165,167-167,169-169,16B-16B,16D-16D,16F-16F,171-171,173-173,175-175,177-177,17" ++
    "A-17A,17C-17C,17E-180,183-183,185-185,188-188,18C-18C,192-192,195-195,199-19B,19E-19E,1A1-1A" ++
    "1,1A3-1A3,1A5-1A5,1A8-1A8,1AD-1AD,1B0-1B0,1B4-1B4,1B6-1B6,1B9-1B9,1BD-1BD,1BF-1BF,1C4-1C4,1C" ++
    "6-1C7,1C9-1CA,1CC-1CC,1CE-1CE,1D0-1D0,1D2-1D2,1D4-1D4,1D6-1D6,1D8-1D8,1DA-1DA,1DC-1DD,1DF-1D" ++
    "F,1E1-1E1,1E3-1E3,1E5-1E5,1E7-1E7,1E9-1E9,1EB-1EB,1ED-1ED,1EF-1F1,1F3-1F3,1F5-1F5,1F9-1F9,1F" ++
    "B-1FB,1FD-1FD,1FF-1FF,201-201,203-203,205-205,207-207,209-209,20B-20B,20D-20D,20F-20F,211-21" ++
    "1,213-213,215-215,217-217,219-219,21B-21B,21D-21D,21F-21F,223-223,225-225,227-227,229-229,22" ++
    "B-22B,22D-22D,22F-22F,231-231,233-233,23C-23C,23F-240,242-242,247-247,249-249,24B-24B,24D-24" ++
    "D,24F-254,256-257,259-259,25B-25C,260-261,263-266,268-26C,26F-26F,271-272,275-275,27D-27D,28" ++
    "0-280,282-283,287-28C,292-292,29D-29E,345-345,371-371,373-373,377-377,37B-37D,390-390,3AC-3C" ++
    "E,3D0-3D1,3D5-3D7,3D9-3D9,3DB-3DB,3DD-3DD,3DF-3DF,3E1-3E1,3E3-3E3,3E5-3E5,3E7-3E7,3E9-3E9,3E" ++
    "B-3EB,3ED-3ED,3EF-3F3,3F5-3F5,3F8-3F8,3FB-3FB,430-45F,461-461,463-463,465-465,467-467,469-46" ++
    "9,46B-46B,46D-46D,46F-46F,471-471,473-473,475-475,477-477,479-479,47B-47B,47D-47D,47F-47F,48" ++
    "1-481,48B-48B,48D-48D,48F-48F,491-491,493-493,495-495,497-497,499-499,49B-49B,49D-49D,49F-49" ++
    "F,4A1-4A1,4A3-4A3,4A5-4A5,4A7-4A7,4A9-4A9,4AB-4AB,4AD-4AD,4AF-4AF,4B1-4B1,4B3-4B3,4B5-4B5,4B" ++
    "7-4B7,4B9-4B9,4BB-4BB,4BD-4BD,4BF-4BF,4C2-4C2,4C4-4C4,4C6-4C6,4C8-4C8,4CA-4CA,4CC-4CC,4CE-4C" ++
    "F,4D1-4D1,4D3-4D3,4D5-4D5,4D7-4D7,4D9-4D9,4DB-4DB,4DD-4DD,4DF-4DF,4E1-4E1,4E3-4E3,4E5-4E5,4E" ++
    "7-4E7,4E9-4E9,4EB-4EB,4ED-4ED,4EF-4EF,4F1-4F1,4F3-4F3,4F5-4F5,4F7-4F7,4F9-4F9,4FB-4FB,4FD-4F" ++
    "D,4FF-4FF,501-501,503-503,505-505,507-507,509-509,50B-50B,50D-50D,50F-50F,511-511,513-513,51" ++
    "5-515,517-517,519-519,51B-51B,51D-51D,51F-51F,521-521,523-523,525-525,527-527,529-529,52B-52" ++
    "B,52D-52D,52F-52F,561-587,13F8-13FD,1C80-1C88,1C8A-1C8A,1D79-1D79,1D7D-1D7D,1D8E-1D8E,1E01-1" ++
    "E01,1E03-1E03,1E05-1E05,1E07-1E07,1E09-1E09,1E0B-1E0B,1E0D-1E0D,1E0F-1E0F,1E11-1E11,1E13-1E1" ++
    "3,1E15-1E15,1E17-1E17,1E19-1E19,1E1B-1E1B,1E1D-1E1D,1E1F-1E1F,1E21-1E21,1E23-1E23,1E25-1E25," ++
    "1E27-1E27,1E29-1E29,1E2B-1E2B,1E2D-1E2D,1E2F-1E2F,1E31-1E31,1E33-1E33,1E35-1E35,1E37-1E37,1E" ++
    "39-1E39,1E3B-1E3B,1E3D-1E3D,1E3F-1E3F,1E41-1E41,1E43-1E43,1E45-1E45,1E47-1E47,1E49-1E49,1E4B" ++
    "-1E4B,1E4D-1E4D,1E4F-1E4F,1E51-1E51,1E53-1E53,1E55-1E55,1E57-1E57,1E59-1E59,1E5B-1E5B,1E5D-1" ++
    "E5D,1E5F-1E5F,1E61-1E61,1E63-1E63,1E65-1E65,1E67-1E67,1E69-1E69,1E6B-1E6B,1E6D-1E6D,1E6F-1E6" ++
    "F,1E71-1E71,1E73-1E73,1E75-1E75,1E77-1E77,1E79-1E79,1E7B-1E7B,1E7D-1E7D,1E7F-1E7F,1E81-1E81," ++
    "1E83-1E83,1E85-1E85,1E87-1E87,1E89-1E89,1E8B-1E8B,1E8D-1E8D,1E8F-1E8F,1E91-1E91,1E93-1E93,1E" ++
    "95-1E9B,1EA1-1EA1,1EA3-1EA3,1EA5-1EA5,1EA7-1EA7,1EA9-1EA9,1EAB-1EAB,1EAD-1EAD,1EAF-1EAF,1EB1" ++
    "-1EB1,1EB3-1EB3,1EB5-1EB5,1EB7-1EB7,1EB9-1EB9,1EBB-1EBB,1EBD-1EBD,1EBF-1EBF,1EC1-1EC1,1EC3-1" ++
    "EC3,1EC5-1EC5,1EC7-1EC7,1EC9-1EC9,1ECB-1ECB,1ECD-1ECD,1ECF-1ECF,1ED1-1ED1,1ED3-1ED3,1ED5-1ED" ++
    "5,1ED7-1ED7,1ED9-1ED9,1EDB-1EDB,1EDD-1EDD,1EDF-1EDF,1EE1-1EE1,1EE3-1EE3,1EE5-1EE5,1EE7-1EE7," ++
    "1EE9-1EE9,1EEB-1EEB,1EED-1EED,1EEF-1EEF,1EF1-1EF1,1EF3-1EF3,1EF5-1EF5,1EF7-1EF7,1EF9-1EF9,1E" ++
    "FB-1EFB,1EFD-1EFD,1EFF-1F07,1F10-1F15,1F20-1F27,1F30-1F37,1F40-1F45,1F50-1F57,1F60-1F67,1F70" ++
    "-1F7D,1F80-1F87,1F90-1F97,1FA0-1FA7,1FB0-1FB4,1FB6-1FB7,1FBE-1FBE,1FC2-1FC4,1FC6-1FC7,1FD0-1" ++
    "FD3,1FD6-1FD7,1FE0-1FE7,1FF2-1FF4,1FF6-1FF7,214E-214E,2170-217F,2184-2184,24D0-24E9,2C30-2C5" ++
    "F,2C61-2C61,2C65-2C66,2C68-2C68,2C6A-2C6A,2C6C-2C6C,2C73-2C73,2C76-2C76,2C81-2C81,2C83-2C83," ++
    "2C85-2C85,2C87-2C87,2C89-2C89,2C8B-2C8B,2C8D-2C8D,2C8F-2C8F,2C91-2C91,2C93-2C93,2C95-2C95,2C" ++
    "97-2C97,2C99-2C99,2C9B-2C9B,2C9D-2C9D,2C9F-2C9F,2CA1-2CA1,2CA3-2CA3,2CA5-2CA5,2CA7-2CA7,2CA9" ++
    "-2CA9,2CAB-2CAB,2CAD-2CAD,2CAF-2CAF,2CB1-2CB1,2CB3-2CB3,2CB5-2CB5,2CB7-2CB7,2CB9-2CB9,2CBB-2" ++
    "CBB,2CBD-2CBD,2CBF-2CBF,2CC1-2CC1,2CC3-2CC3,2CC5-2CC5,2CC7-2CC7,2CC9-2CC9,2CCB-2CCB,2CCD-2CC" ++
    "D,2CCF-2CCF,2CD1-2CD1,2CD3-2CD3,2CD5-2CD5,2CD7-2CD7,2CD9-2CD9,2CDB-2CDB,2CDD-2CDD,2CDF-2CDF," ++
    "2CE1-2CE1,2CE3-2CE3,2CEC-2CEC,2CEE-2CEE,2CF3-2CF3,2D00-2D25,2D27-2D27,2D2D-2D2D,A641-A641,A6" ++
    "43-A643,A645-A645,A647-A647,A649-A649,A64B-A64B,A64D-A64D,A64F-A64F,A651-A651,A653-A653,A655" ++
    "-A655,A657-A657,A659-A659,A65B-A65B,A65D-A65D,A65F-A65F,A661-A661,A663-A663,A665-A665,A667-A" ++
    "667,A669-A669,A66B-A66B,A66D-A66D,A681-A681,A683-A683,A685-A685,A687-A687,A689-A689,A68B-A68" ++
    "B,A68D-A68D,A68F-A68F,A691-A691,A693-A693,A695-A695,A697-A697,A699-A699,A69B-A69B,A723-A723," ++
    "A725-A725,A727-A727,A729-A729,A72B-A72B,A72D-A72D,A72F-A72F,A733-A733,A735-A735,A737-A737,A7" ++
    "39-A739,A73B-A73B,A73D-A73D,A73F-A73F,A741-A741,A743-A743,A745-A745,A747-A747,A749-A749,A74B" ++
    "-A74B,A74D-A74D,A74F-A74F,A751-A751,A753-A753,A755-A755,A757-A757,A759-A759,A75B-A75B,A75D-A" ++
    "75D,A75F-A75F,A761-A761,A763-A763,A765-A765,A767-A767,A769-A769,A76B-A76B,A76D-A76D,A76F-A76" ++
    "F,A77A-A77A,A77C-A77C,A77F-A77F,A781-A781,A783-A783,A785-A785,A787-A787,A78C-A78C,A791-A791," ++
    "A793-A794,A797-A797,A799-A799,A79B-A79B,A79D-A79D,A79F-A79F,A7A1-A7A1,A7A3-A7A3,A7A5-A7A5,A7" ++
    "A7-A7A7,A7A9-A7A9,A7B5-A7B5,A7B7-A7B7,A7B9-A7B9,A7BB-A7BB,A7BD-A7BD,A7BF-A7BF,A7C1-A7C1,A7C3" ++
    "-A7C3,A7C8-A7C8,A7CA-A7CA,A7CD-A7CD,A7D1-A7D1,A7D3-A7D3,A7D5-A7D5,A7D7-A7D7,A7D9-A7D9,A7DB-A" ++
    "7DB,A7F6-A7F6,AB53-AB53,AB70-ABBF,FB00-FB06,FB13-FB17,FF41-FF5A,10428-1044F,104D8-104FB,1059" ++
    "7-105A1,105A3-105B1,105B3-105B9,105BB-105BC,10CC0-10CF2,10D70-10D85,118C0-118DF,16E60-16E7F," ++
    "1E922-1E943;CWU,Changes_When_Uppercased:61-7A,B5-B5,DF-F6,F8-FF,101-101,103-103,105-105,107-" ++
    "107,109-109,10B-10B,10D-10D,10F-10F,111-111,113-113,115-115,117-117,119-119,11B-11B,11D-11D," ++
    "11F-11F,121-121,123-123,125-125,127-127,129-129,12B-12B,12D-12D,12F-12F,131-131,133-133,135-" ++
    "135,137-137,13A-13A,13C-13C,13E-13E,140-140,142-142,144-144,146-146,148-149,14B-14B,14D-14D," ++
    "14F-14F,151-151,153-153,155-155,157-157,159-159,15B-15B,15D-15D,15F-15F,161-161,163-163,165-" ++
    "165,167-167,169-169,16B-16B,16D-16D,16F-16F,171-171,173-173,175-175,177-177,17A-17A,17C-17C," ++
    "17E-180,183-183,185-185,188-188,18C-18C,192-192,195-195,199-19B,19E-19E,1A1-1A1,1A3-1A3,1A5-" ++
    "1A5,1A8-1A8,1AD-1AD,1B0-1B0,1B4-1B4,1B6-1B6,1B9-1B9,1BD-1BD,1BF-1BF,1C5-1C6,1C8-1C9,1CB-1CC," ++
    "1CE-1CE,1D0-1D0,1D2-1D2,1D4-1D4,1D6-1D6,1D8-1D8,1DA-1DA,1DC-1DD,1DF-1DF,1E1-1E1,1E3-1E3,1E5-" ++
    "1E5,1E7-1E7,1E9-1E9,1EB-1EB,1ED-1ED,1EF-1F0,1F2-1F3,1F5-1F5,1F9-1F9,1FB-1FB,1FD-1FD,1FF-1FF," ++
    "201-201,203-203,205-205,207-207,209-209,20B-20B,20D-20D,20F-20F,211-211,213-213,215-215,217-" ++
    "217,219-219,21B-21B,21D-21D,21F-21F,223-223,225-225,227-227,229-229,22B-22B,22D-22D,22F-22F," ++
    "231-231,233-233,23C-23C,23F-240,242-242,247-247,249-249,24B-24B,24D-24D,24F-254,256-257,259-" ++
    "259,25B-25C,260-261,263-266,268-26C,26F-26F,271-272,275-275,27D-27D,280-280,282-283,287-28C," ++
    "292-292,29D-29E,345-345,371-371,373-373,377-377,37B-37D,390-390,3AC-3CE,3D0-3D1,3D5-3D7,3D9-" ++
    "3D9,3DB-3DB,3DD-3DD,3DF-3DF,3E1-3E1,3E3-3E3,3E5-3E5,3E7-3E7,3E9-3E9,3EB-3EB,3ED-3ED,3EF-3F3," ++
    "3F5-3F5,3F8-3F8,3FB-3FB,430-45F,461-461,463-463,465-465,467-467,469-469,46B-46B,46D-46D,46F-" ++
    "46F,471-471,473-473,475-475,477-477,479-479,47B-47B,47D-47D,47F-47F,481-481,48B-48B,48D-48D," ++
    "48F-48F,491-491,493-493,495-495,497-497,499-499,49B-49B,49D-49D,49F-49F,4A1-4A1,4A3-4A3,4A5-" ++
    "4A5,4A7-4A7,4A9-4A9,4AB-4AB,4AD-4AD,4AF-4AF,4B1-4B1,4B3-4B3,4B5-4B5,4B7-4B7,4B9-4B9,4BB-4BB," ++
    "4BD-4BD,4BF-4BF,4C2-4C2,4C4-4C4,4C6-4C6,4C8-4C8,4CA-4CA,4CC-4CC,4CE-4CF,4D1-4D1,4D3-4D3,4D5-" ++
    "4D5,4D7-4D7,4D9-4D9,4DB-4DB,4DD-4DD,4DF-4DF,4E1-4E1,4E3-4E3,4E5-4E5,4E7-4E7,4E9-4E9,4EB-4EB," ++
    "4ED-4ED,4EF-4EF,4F1-4F1,4F3-4F3,4F5-4F5,4F7-4F7,4F9-4F9,4FB-4FB,4FD-4FD,4FF-4FF,501-501,503-" ++
    "503,505-505,507-507,509-509,50B-50B,50D-50D,50F-50F,511-511,513-513,515-515,517-517,519-519," ++
    "51B-51B,51D-51D,51F-51F,521-521,523-523,525-525,527-527,529-529,52B-52B,52D-52D,52F-52F,561-" ++
    "587,10D0-10FA,10FD-10FF,13F8-13FD,1C80-1C88,1C8A-1C8A,1D79-1D79,1D7D-1D7D,1D8E-1D8E,1E01-1E0" ++
    "1,1E03-1E03,1E05-1E05,1E07-1E07,1E09-1E09,1E0B-1E0B,1E0D-1E0D,1E0F-1E0F,1E11-1E11,1E13-1E13," ++
    "1E15-1E15,1E17-1E17,1E19-1E19,1E1B-1E1B,1E1D-1E1D,1E1F-1E1F,1E21-1E21,1E23-1E23,1E25-1E25,1E" ++
    "27-1E27,1E29-1E29,1E2B-1E2B,1E2D-1E2D,1E2F-1E2F,1E31-1E31,1E33-1E33,1E35-1E35,1E37-1E37,1E39" ++
    "-1E39,1E3B-1E3B,1E3D-1E3D,1E3F-1E3F,1E41-1E41,1E43-1E43,1E45-1E45,1E47-1E47,1E49-1E49,1E4B-1" ++
    "E4B,1E4D-1E4D,1E4F-1E4F,1E51-1E51,1E53-1E53,1E55-1E55,1E57-1E57,1E59-1E59,1E5B-1E5B,1E5D-1E5" ++
    "D,1E5F-1E5F,1E61-1E61,1E63-1E63,1E65-1E65,1E67-1E67,1E69-1E69,1E6B-1E6B,1E6D-1E6D,1E6F-1E6F," ++
    "1E71-1E71,1E73-1E73,1E75-1E75,1E77-1E77,1E79-1E79,1E7B-1E7B,1E7D-1E7D,1E7F-1E7F,1E81-1E81,1E" ++
    "83-1E83,1E85-1E85,1E87-1E87,1E89-1E89,1E8B-1E8B,1E8D-1E8D,1E8F-1E8F,1E91-1E91,1E93-1E93,1E95" ++
    "-1E9B,1EA1-1EA1,1EA3-1EA3,1EA5-1EA5,1EA7-1EA7,1EA9-1EA9,1EAB-1EAB,1EAD-1EAD,1EAF-1EAF,1EB1-1" ++
    "EB1,1EB3-1EB3,1EB5-1EB5,1EB7-1EB7,1EB9-1EB9,1EBB-1EBB,1EBD-1EBD,1EBF-1EBF,1EC1-1EC1,1EC3-1EC" ++
    "3,1EC5-1EC5,1EC7-1EC7,1EC9-1EC9,1ECB-1ECB,1ECD-1ECD,1ECF-1ECF,1ED1-1ED1,1ED3-1ED3,1ED5-1ED5," ++
    "1ED7-1ED7,1ED9-1ED9,1EDB-1EDB,1EDD-1EDD,1EDF-1EDF,1EE1-1EE1,1EE3-1EE3,1EE5-1EE5,1EE7-1EE7,1E" ++
    "E9-1EE9,1EEB-1EEB,1EED-1EED,1EEF-1EEF,1EF1-1EF1,1EF3-1EF3,1EF5-1EF5,1EF7-1EF7,1EF9-1EF9,1EFB" ++
    "-1EFB,1EFD-1EFD,1EFF-1F07,1F10-1F15,1F20-1F27,1F30-1F37,1F40-1F45,1F50-1F57,1F60-1F67,1F70-1" ++
    "F7D,1F80-1FB4,1FB6-1FB7,1FBC-1FBC,1FBE-1FBE,1FC2-1FC4,1FC6-1FC7,1FCC-1FCC,1FD0-1FD3,1FD6-1FD" ++
    "7,1FE0-1FE7,1FF2-1FF4,1FF6-1FF7,1FFC-1FFC,214E-214E,2170-217F,2184-2184,24D0-24E9,2C30-2C5F," ++
    "2C61-2C61,2C65-2C66,2C68-2C68,2C6A-2C6A,2C6C-2C6C,2C73-2C73,2C76-2C76,2C81-2C81,2C83-2C83,2C" ++
    "85-2C85,2C87-2C87,2C89-2C89,2C8B-2C8B,2C8D-2C8D,2C8F-2C8F,2C91-2C91,2C93-2C93,2C95-2C95,2C97" ++
    "-2C97,2C99-2C99,2C9B-2C9B,2C9D-2C9D,2C9F-2C9F,2CA1-2CA1,2CA3-2CA3,2CA5-2CA5,2CA7-2CA7,2CA9-2" ++
    "CA9,2CAB-2CAB,2CAD-2CAD,2CAF-2CAF,2CB1-2CB1,2CB3-2CB3,2CB5-2CB5,2CB7-2CB7,2CB9-2CB9,2CBB-2CB" ++
    "B,2CBD-2CBD,2CBF-2CBF,2CC1-2CC1,2CC3-2CC3,2CC5-2CC5,2CC7-2CC7,2CC9-2CC9,2CCB-2CCB,2CCD-2CCD," ++
    "2CCF-2CCF,2CD1-2CD1,2CD3-2CD3,2CD5-2CD5,2CD7-2CD7,2CD9-2CD9,2CDB-2CDB,2CDD-2CDD,2CDF-2CDF,2C" ++
    "E1-2CE1,2CE3-2CE3,2CEC-2CEC,2CEE-2CEE,2CF3-2CF3,2D00-2D25,2D27-2D27,2D2D-2D2D,A641-A641,A643" ++
    "-A643,A645-A645,A647-A647,A649-A649,A64B-A64B,A64D-A64D,A64F-A64F,A651-A651,A653-A653,A655-A" ++
    "655,A657-A657,A659-A659,A65B-A65B,A65D-A65D,A65F-A65F,A661-A661,A663-A663,A665-A665,A667-A66" ++
    "7,A669-A669,A66B-A66B,A66D-A66D,A681-A681,A683-A683,A685-A685,A687-A687,A689-A689,A68B-A68B," ++
    "A68D-A68D,A68F-A68F,A691-A691,A693-A693,A695-A695,A697-A697,A699-A699,A69B-A69B,A723-A723,A7" ++
    "25-A725,A727-A727,A729-A729,A72B-A72B,A72D-A72D,A72F-A72F,A733-A733,A735-A735,A737-A737,A739" ++
    "-A739,A73B-A73B,A73D-A73D,A73F-A73F,A741-A741,A743-A743,A745-A745,A747-A747,A749-A749,A74B-A" ++
    "74B,A74D-A74D,A74F-A74F,A751-A751,A753-A753,A755-A755,A757-A757,A759-A759,A75B-A75B,A75D-A75" ++
    "D,A75F-A75F,A761-A761,A763-A763,A765-A765,A767-A767,A769-A769,A76B-A76B,A76D-A76D,A76F-A76F," ++
    "A77A-A77A,A77C-A77C,A77F-A77F,A781-A781,A783-A783,A785-A785,A787-A787,A78C-A78C,A791-A791,A7" ++
    "93-A794,A797-A797,A799-A799,A79B-A79B,A79D-A79D,A79F-A79F,A7A1-A7A1,A7A3-A7A3,A7A5-A7A5,A7A7" ++
    "-A7A7,A7A9-A7A9,A7B5-A7B5,A7B7-A7B7,A7B9-A7B9,A7BB-A7BB,A7BD-A7BD,A7BF-A7BF,A7C1-A7C1,A7C3-A" ++
    "7C3,A7C8-A7C8,A7CA-A7CA,A7CD-A7CD,A7D1-A7D1,A7D3-A7D3,A7D5-A7D5,A7D7-A7D7,A7D9-A7D9,A7DB-A7D" ++
    "B,A7F6-A7F6,AB53-AB53,AB70-ABBF,FB00-FB06,FB13-FB17,FF41-FF5A,10428-1044F,104D8-104FB,10597-" ++
    "105A1,105A3-105B1,105B3-105B9,105BB-105BC,10CC0-10CF2,10D70-10D85,118C0-118DF,16E60-16E7F,1E" ++
    "922-1E943;Dash:2D-2D,58A-58A,5BE-5BE,1400-1400,1806-1806,2010-2015,2053-2053,207B-207B,208B-" ++
    "208B,2212-2212,2E17-2E17,2E1A-2E1A,2E3A-2E3B,2E40-2E40,2E5D-2E5D,301C-301C,3030-3030,30A0-30" ++
    "A0,FE31-FE32,FE58-FE58,FE63-FE63,FF0D-FF0D,10D6E-10D6E,10EAD-10EAD;DI,Default_Ignorable_Code" ++
    "_Point:AD-AD,34F-34F,61C-61C,115F-1160,17B4-17B5,180B-180F,200B-200F,202A-202E,2060-206F,316" ++
    "4-3164,FE00-FE0F,FEFF-FEFF,FFA0-FFA0,FFF0-FFF8,1BCA0-1BCA3,1D173-1D17A,E0000-E0FFF;Dep,Depre" ++
    "cated:149-149,673-673,F77-F77,F79-F79,17A3-17A4,206A-206F,2329-232A,E0001-E0001;Dia,Diacriti" ++
    "c:5E-5E,60-60,A8-A8,AF-AF,B4-B4,B7-B8,2B0-34E,350-357,35D-362,374-375,37A-37A,384-385,483-48" ++
    "7,559-559,591-5BD,5BF-5BF,5C1-5C2,5C4-5C5,5C7-5C7,64B-652,657-658,6DF-6E0,6E5-6E6,6EA-6EC,73" ++
    "0-74A,7A6-7B0,7EB-7F5,818-819,898-89F,8C9-8D2,8E3-8FE,93C-93C,94D-94D,951-954,971-971,9BC-9B" ++
    "C,9CD-9CD,A3C-A3C,A4D-A4D,ABC-ABC,ACD-ACD,AFD-AFF,B3C-B3C,B4D-B4D,B55-B55,BCD-BCD,C3C-C3C,C4" ++
    "D-C4D,CBC-CBC,CCD-CCD,D3B-D3C,D4D-D4D,DCA-DCA,E3A-E3A,E47-E4C,E4E-E4E,EBA-EBA,EC8-ECC,F18-F1" ++
    "9,F35-F35,F37-F37,F39-F39,F3E-F3F,F82-F84,F86-F87,FC6-FC6,1037-1037,1039-103A,1063-1064,1069" ++
    "-106D,1087-108D,108F-108F,109A-109B,135D-135F,1714-1715,1734-1734,17C9-17D3,17DD-17DD,1939-1" ++
    "93B,1A60-1A60,1A75-1A7C,1A7F-1A7F,1AB0-1ABE,1AC1-1ACB,1B34-1B34,1B44-1B44,1B6B-1B73,1BAA-1BA" ++
    "B,1BE6-1BE6,1BF2-1BF3,1C36-1C37,1C78-1C7D,1CD0-1CE8,1CED-1CED,1CF4-1CF4,1CF7-1CF9,1D2C-1D6A," ++
    "1D9B-1DBE,1DC4-1DCF,1DF5-1DFF,1FBD-1FBD,1FBF-1FC1,1FCD-1FCF,1FDD-1FDF,1FED-1FEF,1FFD-1FFE,2C" ++
    "EF-2CF1,2E2F-2E2F,302A-302F,3099-309C,30FC-30FC,A66F-A66F,A67C-A67D,A67F-A67F,A69C-A69D,A6F0" ++
    "-A6F1,A700-A721,A788-A78A,A7F8-A7F9,A806-A806,A82C-A82C,A8C4-A8C4,A8E0-A8F1,A92B-A92E,A953-A" ++
    "953,A9B3-A9B3,A9C0-A9C0,A9E5-A9E5,AA7B-AA7D,AABF-AAC2,AAF6-AAF6,AB5B-AB5F,AB69-AB6B,ABEC-ABE" ++
    "D,FB1E-FB1E,FE20-FE2F,FF3E-FF3E,FF40-FF40,FF70-FF70,FF9E-FF9F,FFE3-FFE3,102E0-102E0,10780-10" ++
    "785,10787-107B0,107B2-107BA,10A38-10A3A,10A3F-10A3F,10AE5-10AE6,10D22-10D27,10D4E-10D4E,10D6" ++
    "9-10D6D,10EFD-10EFF,10F46-10F50,10F82-10F85,11046-11046,11070-11070,110B9-110BA,11133-11134," ++
    "11173-11173,111C0-111C0,111CA-111CC,11235-11236,112E9-112EA,1133B-1133C,1134D-1134D,11366-11" ++
    "36C,11370-11374,113CE-113D0,113D2-113D3,113E1-113E2,11442-11442,11446-11446,114C2-114C3,115B" ++
    "F-115C0,1163F-1163F,116B6-116B7,1172B-1172B,11839-1183A,1193D-1193E,11943-11943,119E0-119E0," ++
    "11A34-11A34,11A47-11A47,11A99-11A99,11C3F-11C3F,11D42-11D42,11D44-11D45,11D97-11D97,11F41-11" ++
    "F42,11F5A-11F5A,13447-13455,1612F-1612F,16AF0-16AF4,16B30-16B36,16D6B-16D6C,16F8F-16F9F,16FF" ++
    "0-16FF1,1AFF0-1AFF3,1AFF5-1AFFB,1AFFD-1AFFE,1CF00-1CF2D,1CF30-1CF46,1D167-1D169,1D16D-1D172," ++
    "1D17B-1D182,1D185-1D18B,1D1AA-1D1AD,1E030-1E06D,1E130-1E136,1E2AE-1E2AE,1E2EC-1E2EF,1E5EE-1E" ++
    "5EF,1E8D0-1E8D6,1E944-1E946,1E948-1E94A;Emoji:23-23,2A-2A,30-39,A9-A9,AE-AE,203C-203C,2049-2" ++
    "049,2122-2122,2139-2139,2194-2199,21A9-21AA,231A-231B,2328-2328,23CF-23CF,23E9-23F3,23F8-23F" ++
    "A,24C2-24C2,25AA-25AB,25B6-25B6,25C0-25C0,25FB-25FE,2600-2604,260E-260E,2611-2611,2614-2615," ++
    "2618-2618,261D-261D,2620-2620,2622-2623,2626-2626,262A-262A,262E-262F,2638-263A,2640-2640,26" ++
    "42-2642,2648-2653,265F-2660,2663-2663,2665-2666,2668-2668,267B-267B,267E-267F,2692-2697,2699" ++
    "-2699,269B-269C,26A0-26A1,26A7-26A7,26AA-26AB,26B0-26B1,26BD-26BE,26C4-26C5,26C8-26C8,26CE-2" ++
    "6CF,26D1-26D1,26D3-26D4,26E9-26EA,26F0-26F5,26F7-26FA,26FD-26FD,2702-2702,2705-2705,2708-270" ++
    "D,270F-270F,2712-2712,2714-2714,2716-2716,271D-271D,2721-2721,2728-2728,2733-2734,2744-2744," ++
    "2747-2747,274C-274C,274E-274E,2753-2755,2757-2757,2763-2764,2795-2797,27A1-27A1,27B0-27B0,27" ++
    "BF-27BF,2934-2935,2B05-2B07,2B1B-2B1C,2B50-2B50,2B55-2B55,3030-3030,303D-303D,3297-3297,3299" ++
    "-3299,1F004-1F004,1F0CF-1F0CF,1F170-1F171,1F17E-1F17F,1F18E-1F18E,1F191-1F19A,1F1E6-1F1FF,1F" ++
    "201-1F202,1F21A-1F21A,1F22F-1F22F,1F232-1F23A,1F250-1F251,1F300-1F321,1F324-1F393,1F396-1F39" ++
    "7,1F399-1F39B,1F39E-1F3F0,1F3F3-1F3F5,1F3F7-1F4FD,1F4FF-1F53D,1F549-1F54E,1F550-1F567,1F56F-" ++
    "1F570,1F573-1F57A,1F587-1F587,1F58A-1F58D,1F590-1F590,1F595-1F596,1F5A4-1F5A5,1F5A8-1F5A8,1F" ++
    "5B1-1F5B2,1F5BC-1F5BC,1F5C2-1F5C4,1F5D1-1F5D3,1F5DC-1F5DE,1F5E1-1F5E1,1F5E3-1F5E3,1F5E8-1F5E" ++
    "8,1F5EF-1F5EF,1F5F3-1F5F3,1F5FA-1F64F,1F680-1F6C5,1F6CB-1F6D2,1F6D5-1F6D7,1F6DC-1F6E5,1F6E9-" ++
    "1F6E9,1F6EB-1F6EC,1F6F0-1F6F0,1F6F3-1F6FC,1F7E0-1F7EB,1F7F0-1F7F0,1F90C-1F93A,1F93C-1F945,1F" ++
    "947-1F9FF,1FA70-1FA7C,1FA80-1FA89,1FA8F-1FAC6,1FACE-1FADC,1FADF-1FAE9,1FAF0-1FAF8;EComp,Emoj" ++
    "i_Component:23-23,2A-2A,30-39,200D-200D,20E3-20E3,FE0F-FE0F,1F1E6-1F1FF,1F3FB-1F3FF,1F9B0-1F" ++
    "9B3,E0020-E007F;EMod,Emoji_Modifier:1F3FB-1F3FF;EBase,Emoji_Modifier_Base:261D-261D,26F9-26F" ++
    "9,270A-270D,1F385-1F385,1F3C2-1F3C4,1F3C7-1F3C7,1F3CA-1F3CC,1F442-1F443,1F446-1F450,1F466-1F" ++
    "478,1F47C-1F47C,1F481-1F483,1F485-1F487,1F48F-1F48F,1F491-1F491,1F4AA-1F4AA,1F574-1F575,1F57" ++
    "A-1F57A,1F590-1F590,1F595-1F596,1F645-1F647,1F64B-1F64F,1F6A3-1F6A3,1F6B4-1F6B6,1F6C0-1F6C0," ++
    "1F6CC-1F6CC,1F90C-1F90C,1F90F-1F90F,1F918-1F91F,1F926-1F926,1F930-1F939,1F93C-1F93E,1F977-1F" ++
    "977,1F9B5-1F9B6,1F9B8-1F9B9,1F9BB-1F9BB,1F9CD-1F9CF,1F9D1-1F9DD,1FAC3-1FAC5,1FAF0-1FAF8;EPre" ++
    "s,Emoji_Presentation:231A-231B,23E9-23EC,23F0-23F0,23F3-23F3,25FD-25FE,2614-2615,2648-2653,2" ++
    "67F-267F,2693-2693,26A1-26A1,26AA-26AB,26BD-26BE,26C4-26C5,26CE-26CE,26D4-26D4,26EA-26EA,26F" ++
    "2-26F3,26F5-26F5,26FA-26FA,26FD-26FD,2705-2705,270A-270B,2728-2728,274C-274C,274E-274E,2753-" ++
    "2755,2757-2757,2795-2797,27B0-27B0,27BF-27BF,2B1B-2B1C,2B50-2B50,2B55-2B55,1F004-1F004,1F0CF" ++
    "-1F0CF,1F18E-1F18E,1F191-1F19A,1F1E6-1F1FF,1F201-1F201,1F21A-1F21A,1F22F-1F22F,1F232-1F236,1" ++
    "F238-1F23A,1F250-1F251,1F300-1F320,1F32D-1F335,1F337-1F37C,1F37E-1F393,1F3A0-1F3CA,1F3CF-1F3" ++
    "D3,1F3E0-1F3F0,1F3F4-1F3F4,1F3F8-1F43E,1F440-1F440,1F442-1F4FC,1F4FF-1F53D,1F54B-1F54E,1F550" ++
    "-1F567,1F57A-1F57A,1F595-1F596,1F5A4-1F5A4,1F5FB-1F64F,1F680-1F6C5,1F6CC-1F6CC,1F6D0-1F6D2,1" ++
    "F6D5-1F6D7,1F6DC-1F6DF,1F6EB-1F6EC,1F6F4-1F6FC,1F7E0-1F7EB,1F7F0-1F7F0,1F90C-1F93A,1F93C-1F9" ++
    "45,1F947-1F9FF,1FA70-1FA7C,1FA80-1FA89,1FA8F-1FAC6,1FACE-1FADC,1FADF-1FAE9,1FAF0-1FAF8;ExtPi" ++
    "ct,Extended_Pictographic:A9-A9,AE-AE,203C-203C,2049-2049,2122-2122,2139-2139,2194-2199,21A9-" ++
    "21AA,231A-231B,2328-2328,23CF-23CF,23E9-23F3,23F8-23FA,24C2-24C2,25AA-25AB,25B6-25B6,25C0-25" ++
    "C0,25FB-25FE,2600-2604,260E-260E,2611-2611,2614-2615,2618-2618,261D-261D,2620-2620,2622-2623" ++
    ",2626-2626,262A-262A,262E-262F,2638-263A,2640-2640,2642-2642,2648-2653,265F-2660,2663-2663,2" ++
    "665-2666,2668-2668,267B-267B,267E-267F,2692-2697,2699-2699,269B-269C,26A0-26A1,26A7-26A7,26A" ++
    "A-26AB,26B0-26B1,26BD-26BE,26C4-26C5,26C8-26C8,26CE-26CF,26D1-26D1,26D3-26D4,26E9-26EA,26F0-" ++
    "26F5,26F7-26FA,26FD-26FD,2702-2702,2705-2705,2708-270D,270F-270F,2712-2712,2714-2714,2716-27" ++
    "16,271D-271D,2721-2721,2728-2728,2733-2734,2744-2744,2747-2747,274C-274C,274E-274E,2753-2755" ++
    ",2757-2757,2763-2764,2795-2797,27A1-27A1,27B0-27B0,27BF-27BF,2934-2935,2B05-2B07,2B1B-2B1C,2" ++
    "B50-2B50,2B55-2B55,3030-3030,303D-303D,3297-3297,3299-3299,1F004-1F004,1F02C-1F02F,1F094-1F0" ++
    "9F,1F0AF-1F0B0,1F0C0-1F0C0,1F0CF-1F0D0,1F0F6-1F0FF,1F170-1F171,1F17E-1F17F,1F18E-1F18E,1F191" ++
    "-1F19A,1F1AE-1F1E5,1F201-1F20F,1F21A-1F21A,1F22F-1F22F,1F232-1F23A,1F23C-1F23F,1F249-1F25F,1" ++
    "F266-1F321,1F324-1F393,1F396-1F397,1F399-1F39B,1F39E-1F3F0,1F3F3-1F3F5,1F3F7-1F3FA,1F400-1F4" ++
    "FD,1F4FF-1F53D,1F549-1F54E,1F550-1F567,1F56F-1F570,1F573-1F57A,1F587-1F587,1F58A-1F58D,1F590" ++
    "-1F590,1F595-1F596,1F5A4-1F5A5,1F5A8-1F5A8,1F5B1-1F5B2,1F5BC-1F5BC,1F5C2-1F5C4,1F5D1-1F5D3,1" ++
    "F5DC-1F5DE,1F5E1-1F5E1,1F5E3-1F5E3,1F5E8-1F5E8,1F5EF-1F5EF,1F5F3-1F5F3,1F5FA-1F64F,1F680-1F6" ++
    "C5,1F6CB-1F6D2,1F6D5-1F6E5,1F6E9-1F6E9,1F6EB-1F6F0,1F6F3-1F6FF,1F7DA-1F7FF,1F80C-1F80F,1F848" ++
    "-1F84F,1F85A-1F85F,1F888-1F88F,1F8AE-1F8AF,1F8BC-1F8BF,1F8C2-1F8CF,1F8D9-1F8FF,1F90C-1F93A,1" ++
    "F93C-1F945,1F947-1F9FF,1FA58-1FA5F,1FA6E-1FAFF,1FC00-1FFFD;Ext,Extender:B7-B7,2D0-2D1,640-64" ++
    "0,7FA-7FA,A71-A71,AFB-AFB,B55-B55,E46-E46,EC6-EC6,180A-180A,1843-1843,1AA7-1AA7,1C36-1C36,1C" ++
    "7B-1C7B,3005-3005,3031-3035,309D-309E,30FC-30FE,A015-A015,A60C-A60C,A9CF-A9CF,A9E6-A9E6,AA70" ++
    "-AA70,AADD-AADD,AAF3-AAF4,FF70-FF70,10781-10782,10D4E-10D4E,10D6A-10D6A,10D6F-10D6F,11237-11" ++
    "237,1135D-1135D,113D2-113D3,115C6-115C8,11A98-11A98,16B42-16B43,16FE0-16FE1,16FE3-16FE3,1E13" ++
    "C-1E13D,1E5EF-1E5EF,1E944-1E946;Gr_Base,Grapheme_Base:20-7E,A0-AC,AE-2FF,370-377,37A-37F,384" ++
    "-38A,38C-38C,38E-3A1,3A3-482,48A-52F,531-556,559-58A,58D-58F,5BE-5BE,5C0-5C0,5C3-5C3,5C6-5C6" ++
    ",5D0-5EA,5EF-5F4,606-60F,61B-61B,61D-64A,660-66F,671-6D5,6DE-6DE,6E5-6E6,6E9-6E9,6EE-70D,710" ++
    "-710,712-72F,74D-7A5,7B1-7B1,7C0-7EA,7F4-7FA,7FE-815,81A-81A,824-824,828-828,830-83E,840-858" ++
    ",85E-85E,860-86A,870-88E,8A0-8C9,903-939,93B-93B,93D-940,949-94C,94E-950,958-961,964-980,982" ++
    "-983,985-98C,98F-990,993-9A8,9AA-9B0,9B2-9B2,9B6-9B9,9BD-9BD,9BF-9C0,9C7-9C8,9CB-9CC,9CE-9CE" ++
    ",9DC-9DD,9DF-9E1,9E6-9FD,A03-A03,A05-A0A,A0F-A10,A13-A28,A2A-A30,A32-A33,A35-A36,A38-A39,A3E" ++
    "-A40,A59-A5C,A5E-A5E,A66-A6F,A72-A74,A76-A76,A83-A83,A85-A8D,A8F-A91,A93-AA8,AAA-AB0,AB2-AB3" ++
    ",AB5-AB9,ABD-AC0,AC9-AC9,ACB-ACC,AD0-AD0,AE0-AE1,AE6-AF1,AF9-AF9,B02-B03,B05-B0C,B0F-B10,B13" ++
    "-B28,B2A-B30,B32-B33,B35-B39,B3D-B3D,B40-B40,B47-B48,B4B-B4C,B5C-B5D,B5F-B61,B66-B77,B83-B83" ++
    ",B85-B8A,B8E-B90,B92-B95,B99-B9A,B9C-B9C,B9E-B9F,BA3-BA4,BA8-BAA,BAE-BB9,BBF-BBF,BC1-BC2,BC6" ++
    "-BC8,BCA-BCC,BD0-BD0,BE6-BFA,C01-C03,C05-C0C,C0E-C10,C12-C28,C2A-C39,C3D-C3D,C41-C44,C58-C5A" ++
    ",C5D-C5D,C60-C61,C66-C6F,C77-C80,C82-C8C,C8E-C90,C92-CA8,CAA-CB3,CB5-CB9,CBD-CBE,CC1-CC1,CC3" ++
    "-CC4,CDD-CDE,CE0-CE1,CE6-CEF,CF1-CF3,D02-D0C,D0E-D10,D12-D3A,D3D-D3D,D3F-D40,D46-D48,D4A-D4C" ++
    ",D4E-D4F,D54-D56,D58-D61,D66-D7F,D82-D83,D85-D96,D9A-DB1,DB3-DBB,DBD-DBD,DC0-DC6,DD0-DD1,DD8" ++
    "-DDE,DE6-DEF,DF2-DF4,E01-E30,E32-E33,E3F-E46,E4F-E5B,E81-E82,E84-E84,E86-E8A,E8C-EA3,EA5-EA5" ++
    ",EA7-EB0,EB2-EB3,EBD-EBD,EC0-EC4,EC6-EC6,ED0-ED9,EDC-EDF,F00-F17,F1A-F34,F36-F36,F38-F38,F3A" ++
    "-F47,F49-F6C,F7F-F7F,F85-F85,F88-F8C,FBE-FC5,FC7-FCC,FCE-FDA,1000-102C,1031-1031,1038-1038,1" ++
    "03B-103C,103F-1057,105A-105D,1061-1070,1075-1081,1083-1084,1087-108C,108E-109C,109E-10C5,10C" ++
    "7-10C7,10CD-10CD,10D0-1248,124A-124D,1250-1256,1258-1258,125A-125D,1260-1288,128A-128D,1290-" ++
    "12B0,12B2-12B5,12B8-12BE,12C0-12C0,12C2-12C5,12C8-12D6,12D8-1310,1312-1315,1318-135A,1360-13" ++
    "7C,1380-1399,13A0-13F5,13F8-13FD,1400-169C,16A0-16F8,1700-1711,171F-1731,1735-1736,1740-1751" ++
    ",1760-176C,176E-1770,1780-17B3,17B6-17B6,17BE-17C5,17C7-17C8,17D4-17DC,17E0-17E9,17F0-17F9,1" ++
    "800-180A,1810-1819,1820-1878,1880-1884,1887-18A8,18AA-18AA,18B0-18F5,1900-191E,1923-1926,192" ++
    "9-192B,1930-1931,1933-1938,1940-1940,1944-196D,1970-1974,1980-19AB,19B0-19C9,19D0-19DA,19DE-" ++
    "1A16,1A19-1A1A,1A1E-1A55,1A57-1A57,1A61-1A61,1A63-1A64,1A6D-1A72,1A80-1A89,1A90-1A99,1AA0-1A" ++
    "AD,1B04-1B33,1B3E-1B41,1B45-1B4C,1B4E-1B6A,1B74-1B7F,1B82-1BA1,1BA6-1BA7,1BAE-1BE5,1BE7-1BE7" ++
    ",1BEA-1BEC,1BEE-1BEE,1BFC-1C2B,1C34-1C35,1C3B-1C49,1C4D-1C8A,1C90-1CBA,1CBD-1CC7,1CD3-1CD3,1" ++
    "CE1-1CE1,1CE9-1CEC,1CEE-1CF3,1CF5-1CF7,1CFA-1CFA,1D00-1DBF,1E00-1F15,1F18-1F1D,1F20-1F45,1F4" ++
    "8-1F4D,1F50-1F57,1F59-1F59,1F5B-1F5B,1F5D-1F5D,1F5F-1F7D,1F80-1FB4,1FB6-1FC4,1FC6-1FD3,1FD6-" ++
    "1FDB,1FDD-1FEF,1FF2-1FF4,1FF6-1FFE,2000-200A,2010-2027,202F-205F,2070-2071,2074-208E,2090-20" ++
    "9C,20A0-20C0,2100-218B,2190-2429,2440-244A,2460-2B73,2B76-2B95,2B97-2CEE,2CF2-2CF3,2CF9-2D25" ++
    ",2D27-2D27,2D2D-2D2D,2D30-2D67,2D6F-2D70,2D80-2D96,2DA0-2DA6,2DA8-2DAE,2DB0-2DB6,2DB8-2DBE,2" ++
    "DC0-2DC6,2DC8-2DCE,2DD0-2DD6,2DD8-2DDE,2E00-2E5D,2E80-2E99,2E9B-2EF3,2F00-2FD5,2FF0-3029,303" ++
    "0-303F,3041-3096,309B-30FF,3105-312F,3131-318E,3190-31E5,31EF-321E,3220-A48C,A490-A4C6,A4D0-" ++
    "A62B,A640-A66E,A673-A673,A67E-A69D,A6A0-A6EF,A6F2-A6F7,A700-A7CD,A7D0-A7D1,A7D3-A7D3,A7D5-A7" ++
    "DC,A7F2-A801,A803-A805,A807-A80A,A80C-A824,A827-A82B,A830-A839,A840-A877,A880-A8C3,A8CE-A8D9" ++
    ",A8F2-A8FE,A900-A925,A92E-A946,A952-A952,A95F-A97C,A983-A9B2,A9B4-A9B5,A9BA-A9BB,A9BE-A9BF,A" ++
    "9C1-A9CD,A9CF-A9D9,A9DE-A9E4,A9E6-A9FE,AA00-AA28,AA2F-AA30,AA33-AA34,AA40-AA42,AA44-AA4B,AA4" ++
    "D-AA4D,AA50-AA59,AA5C-AA7B,AA7D-AAAF,AAB1-AAB1,AAB5-AAB6,AAB9-AABD,AAC0-AAC0,AAC2-AAC2,AADB-" ++
    "AAEB,AAEE-AAF5,AB01-AB06,AB09-AB0E,AB11-AB16,AB20-AB26,AB28-AB2E,AB30-AB6B,AB70-ABE4,ABE6-AB" ++
    "E7,ABE9-ABEC,ABF0-ABF9,AC00-D7A3,D7B0-D7C6,D7CB-D7FB,F900-FA6D,FA70-FAD9,FB00-FB06,FB13-FB17" ++
    ",FB1D-FB1D,FB1F-FB36,FB38-FB3C,FB3E-FB3E,FB40-FB41,FB43-FB44,FB46-FBC2,FBD3-FD8F,FD92-FDC7,F" ++
    "DCF-FDCF,FDF0-FDFF,FE10-FE19,FE30-FE52,FE54-FE66,FE68-FE6B,FE70-FE74,FE76-FEFC,FF01-FF9D,FFA" ++
    "0-FFBE,FFC2-FFC7,FFCA-FFCF,FFD2-FFD7,FFDA-FFDC,FFE0-FFE6,FFE8-FFEE,FFFC-FFFD,10000-1000B,100" ++
    "0D-10026,10028-1003A,1003C-1003D,1003F-1004D,10050-1005D,10080-100FA,10100-10102,10107-10133" ++
    ",10137-1018E,10190-1019C,101A0-101A0,101D0-101FC,10280-1029C,102A0-102D0,102E1-102FB,10300-1" ++
    "0323,1032D-1034A,10350-10375,10380-1039D,1039F-103C3,103C8-103D5,10400-1049D,104A0-104A9,104" ++
    "B0-104D3,104D8-104FB,10500-10527,10530-10563,1056F-1057A,1057C-1058A,1058C-10592,10594-10595" ++
    ",10597-105A1,105A3-105B1,105B3-105B9,105BB-105BC,105C0-105F3,10600-10736,10740-10755,10760-1" ++
    "0767,10780-10785,10787-107B0,107B2-107BA,10800-10805,10808-10808,1080A-10835,10837-10838,108" ++
    "3C-1083C,1083F-10855,10857-1089E,108A7-108AF,108E0-108F2,108F4-108F5,108FB-1091B,1091F-10939" ++
    ",1093F-1093F,10980-109B7,109BC-109CF,109D2-10A00,10A10-10A13,10A15-10A17,10A19-10A35,10A40-1" ++
    "0A48,10A50-10A58,10A60-10A9F,10AC0-10AE4,10AEB-10AF6,10B00-10B35,10B39-10B55,10B58-10B72,10B" ++
    "78-10B91,10B99-10B9C,10BA9-10BAF,10C00-10C48,10C80-10CB2,10CC0-10CF2,10CFA-10D23,10D30-10D39" ++
    ",10D40-10D65,10D6E-10D85,10D8E-10D8F,10E60-10E7E,10E80-10EA9,10EAD-10EAD,10EB0-10EB1,10EC2-1" ++
    "0EC4,10F00-10F27,10F30-10F45,10F51-10F59,10F70-10F81,10F86-10F89,10FB0-10FCB,10FE0-10FF6,110" ++
    "00-11000,11002-11037,11047-1104D,11052-1106F,11071-11072,11075-11075,11082-110B2,110B7-110B8" ++
    ",110BB-110BC,110BE-110C1,110D0-110E8,110F0-110F9,11103-11126,1112C-1112C,11136-11147,11150-1" ++
    "1172,11174-11176,11182-111B5,111BF-111BF,111C1-111C8,111CD-111CE,111D0-111DF,111E1-111F4,112" ++
    "00-11211,11213-1122E,11232-11233,11238-1123D,1123F-11240,11280-11286,11288-11288,1128A-1128D" ++
    ",1128F-1129D,1129F-112A9,112B0-112DE,112E0-112E2,112F0-112F9,11302-11303,11305-1130C,1130F-1" ++
    "1310,11313-11328,1132A-11330,11332-11333,11335-11339,1133D-1133D,1133F-1133F,11341-11344,113" ++
    "47-11348,1134B-1134C,11350-11350,1135D-11363,11380-11389,1138B-1138B,1138E-1138E,11390-113B5" ++
    ",113B7-113B7,113B9-113BA,113CA-113CA,113CC-113CD,113D1-113D1,113D3-113D5,113D7-113D8,11400-1" ++
    "1437,11440-11441,11445-11445,11447-1145B,1145D-1145D,1145F-11461,11480-114AF,114B1-114B2,114" ++
    "B9-114B9,114BB-114BC,114BE-114BE,114C1-114C1,114C4-114C7,114D0-114D9,11580-115AE,115B0-115B1" ++
    ",115B8-115BB,115BE-115BE,115C1-115DB,11600-11632,1163B-1163C,1163E-1163E,11641-11644,11650-1" ++
    "1659,11660-1166C,11680-116AA,116AC-116AC,116AE-116AF,116B8-116B9,116C0-116C9,116D0-116E3,117" ++
    "00-1171A,1171E-1171E,11720-11721,11726-11726,11730-11746,11800-1182E,11838-11838,1183B-1183B" ++
    ",118A0-118F2,118FF-11906,11909-11909,1190C-11913,11915-11916,11918-1192F,11931-11935,11937-1" ++
    "1938,1193F-11942,11944-11946,11950-11959,119A0-119A7,119AA-119D3,119DC-119DF,119E1-119E4,11A" ++
    "00-11A00,11A0B-11A32,11A39-11A3A,11A3F-11A46,11A50-11A50,11A57-11A58,11A5C-11A89,11A97-11A97" ++
    ",11A9A-11AA2,11AB0-11AF8,11B00-11B09,11BC0-11BE1,11BF0-11BF9,11C00-11C08,11C0A-11C2F,11C3E-1" ++
    "1C3E,11C40-11C45,11C50-11C6C,11C70-11C8F,11CA9-11CA9,11CB1-11CB1,11CB4-11CB4,11D00-11D06,11D" ++
    "08-11D09,11D0B-11D30,11D46-11D46,11D50-11D59,11D60-11D65,11D67-11D68,11D6A-11D8E,11D93-11D94" ++
    ",11D96-11D96,11D98-11D98,11DA0-11DA9,11EE0-11EF2,11EF5-11EF8,11F02-11F10,11F12-11F35,11F3E-1" ++
    "1F3F,11F43-11F59,11FB0-11FB0,11FC0-11FF1,11FFF-12399,12400-1246E,12470-12474,12480-12543,12F" ++
    "90-12FF2,13000-1342F,13441-13446,13460-143FA,14400-14646,16100-1611D,1612A-1612C,16130-16139" ++
    ",16800-16A38,16A40-16A5E,16A60-16A69,16A6E-16ABE,16AC0-16AC9,16AD0-16AED,16AF5-16AF5,16B00-1" ++
    "6B2F,16B37-16B45,16B50-16B59,16B5B-16B61,16B63-16B77,16B7D-16B8F,16D40-16D79,16E40-16E9A,16F" ++
    "00-16F4A,16F50-16F87,16F93-16F9F,16FE0-16FE3,17000-187F7,18800-18CD5,18CFF-18D08,1AFF0-1AFF3" ++
    ",1AFF5-1AFFB,1AFFD-1AFFE,1B000-1B122,1B132-1B132,1B150-1B152,1B155-1B155,1B164-1B167,1B170-1" ++
    "B2FB,1BC00-1BC6A,1BC70-1BC7C,1BC80-1BC88,1BC90-1BC99,1BC9C-1BC9C,1BC9F-1BC9F,1CC00-1CCF9,1CD" ++
    "00-1CEB3,1CF50-1CFC3,1D000-1D0F5,1D100-1D126,1D129-1D164,1D16A-1D16C,1D183-1D184,1D18C-1D1A9" ++
    ",1D1AE-1D1EA,1D200-1D241,1D245-1D245,1D2C0-1D2D3,1D2E0-1D2F3,1D300-1D356,1D360-1D378,1D400-1" ++
    "D454,1D456-1D49C,1D49E-1D49F,1D4A2-1D4A2,1D4A5-1D4A6,1D4A9-1D4AC,1D4AE-1D4B9,1D4BB-1D4BB,1D4" ++
    "BD-1D4C3,1D4C5-1D505,1D507-1D50A,1D50D-1D514,1D516-1D51C,1D51E-1D539,1D53B-1D53E,1D540-1D544" ++
    ",1D546-1D546,1D54A-1D550,1D552-1D6A5,1D6A8-1D7CB,1D7CE-1D9FF,1DA37-1DA3A,1DA6D-1DA74,1DA76-1" ++
    "DA83,1DA85-1DA8B,1DF00-1DF1E,1DF25-1DF2A,1E030-1E06D,1E100-1E12C,1E137-1E13D,1E140-1E149,1E1" ++
    "4E-1E14F,1E290-1E2AD,1E2C0-1E2EB,1E2F0-1E2F9,1E2FF-1E2FF,1E4D0-1E4EB,1E4F0-1E4F9,1E5D0-1E5ED" ++
    ",1E5F0-1E5FA,1E5FF-1E5FF,1E7E0-1E7E6,1E7E8-1E7EB,1E7ED-1E7EE,1E7F0-1E7FE,1E800-1E8C4,1E8C7-1" ++
    "E8CF,1E900-1E943,1E94B-1E94B,1E950-1E959,1E95E-1E95F,1EC71-1ECB4,1ED01-1ED3D,1EE00-1EE03,1EE" ++
    "05-1EE1F,1EE21-1EE22,1EE24-1EE24,1EE27-1EE27,1EE29-1EE32,1EE34-1EE37,1EE39-1EE39,1EE3B-1EE3B" ++
    ",1EE42-1EE42,1EE47-1EE47,1EE49-1EE49,1EE4B-1EE4B,1EE4D-1EE4F,1EE51-1EE52,1EE54-1EE54,1EE57-1" ++
    "EE57,1EE59-1EE59,1EE5B-1EE5B,1EE5D-1EE5D,1EE5F-1EE5F,1EE61-1EE62,1EE64-1EE64,1EE67-1EE6A,1EE" ++
    "6C-1EE72,1EE74-1EE77,1EE79-1EE7C,1EE7E-1EE7E,1EE80-1EE89,1EE8B-1EE9B,1EEA1-1EEA3,1EEA5-1EEA9" ++
    ",1EEAB-1EEBB,1EEF0-1EEF1,1F000-1F02B,1F030-1F093,1F0A0-1F0AE,1F0B1-1F0BF,1F0C1-1F0CF,1F0D1-1" ++
    "F0F5,1F100-1F1AD,1F1E6-1F202,1F210-1F23B,1F240-1F248,1F250-1F251,1F260-1F265,1F300-1F6D7,1F6" ++
    "DC-1F6EC,1F6F0-1F6FC,1F700-1F776,1F77B-1F7D9,1F7E0-1F7EB,1F7F0-1F7F0,1F800-1F80B,1F810-1F847" ++
    ",1F850-1F859,1F860-1F887,1F890-1F8AD,1F8B0-1F8BB,1F8C0-1F8C1,1F900-1FA53,1FA60-1FA6D,1FA70-1" ++
    "FA7C,1FA80-1FA89,1FA8F-1FAC6,1FACE-1FADC,1FADF-1FAE9,1FAF0-1FAF8,1FB00-1FB92,1FB94-1FBF9,200" ++
    "00-2A6DF,2A700-2B739,2B740-2B81D,2B820-2CEA1,2CEB0-2EBE0,2EBF0-2EE5D,2F800-2FA1D,30000-3134A" ++
    ",31350-323AF;Gr_Ext,Grapheme_Extend:300-36F,483-489,591-5BD,5BF-5BF,5C1-5C2,5C4-5C5,5C7-5C7," ++
    "610-61A,64B-65F,670-670,6D6-6DC,6DF-6E4,6E7-6E8,6EA-6ED,711-711,730-74A,7A6-7B0,7EB-7F3,7FD-" ++
    "7FD,816-819,81B-823,825-827,829-82D,859-85B,897-89F,8CA-8E1,8E3-902,93A-93A,93C-93C,941-948," ++
    "94D-94D,951-957,962-963,981-981,9BC-9BC,9BE-9BE,9C1-9C4,9CD-9CD,9D7-9D7,9E2-9E3,9FE-9FE,A01-" ++
    "A02,A3C-A3C,A41-A42,A47-A48,A4B-A4D,A51-A51,A70-A71,A75-A75,A81-A82,ABC-ABC,AC1-AC5,AC7-AC8," ++
    "ACD-ACD,AE2-AE3,AFA-AFF,B01-B01,B3C-B3C,B3E-B3F,B41-B44,B4D-B4D,B55-B57,B62-B63,B82-B82,BBE-" ++
    "BBE,BC0-BC0,BCD-BCD,BD7-BD7,C00-C00,C04-C04,C3C-C3C,C3E-C40,C46-C48,C4A-C4D,C55-C56,C62-C63," ++
    "C81-C81,CBC-CBC,CBF-CC0,CC2-CC2,CC6-CC8,CCA-CCD,CD5-CD6,CE2-CE3,D00-D01,D3B-D3C,D3E-D3E,D41-" ++
    "D44,D4D-D4D,D57-D57,D62-D63,D81-D81,DCA-DCA,DCF-DCF,DD2-DD4,DD6-DD6,DDF-DDF,E31-E31,E34-E3A," ++
    "E47-E4E,EB1-EB1,EB4-EBC,EC8-ECE,F18-F19,F35-F35,F37-F37,F39-F39,F71-F7E,F80-F84,F86-F87,F8D-" ++
    "F97,F99-FBC,FC6-FC6,102D-1030,1032-1037,1039-103A,103D-103E,1058-1059,105E-1060,1071-1074,10" ++
    "82-1082,1085-1086,108D-108D,109D-109D,135D-135F,1712-1715,1732-1734,1752-1753,1772-1773,17B4" ++
    "-17B5,17B7-17BD,17C6-17C6,17C9-17D3,17DD-17DD,180B-180D,180F-180F,1885-1886,18A9-18A9,1920-1" ++
    "922,1927-1928,1932-1932,1939-193B,1A17-1A18,1A1B-1A1B,1A56-1A56,1A58-1A5E,1A60-1A60,1A62-1A6" ++
    "2,1A65-1A6C,1A73-1A7C,1A7F-1A7F,1AB0-1ACE,1B00-1B03,1B34-1B3D,1B42-1B44,1B6B-1B73,1B80-1B81," ++
    "1BA2-1BA5,1BA8-1BAD,1BE6-1BE6,1BE8-1BE9,1BED-1BED,1BEF-1BF3,1C2C-1C33,1C36-1C37,1CD0-1CD2,1C" ++
    "D4-1CE0,1CE2-1CE8,1CED-1CED,1CF4-1CF4,1CF8-1CF9,1DC0-1DFF,200C-200C,20D0-20F0,2CEF-2CF1,2D7F" ++
    "-2D7F,2DE0-2DFF,302A-302F,3099-309A,A66F-A672,A674-A67D,A69E-A69F,A6F0-A6F1,A802-A802,A806-A" ++
    "806,A80B-A80B,A825-A826,A82C-A82C,A8C4-A8C5,A8E0-A8F1,A8FF-A8FF,A926-A92D,A947-A951,A953-A95" ++
    "3,A980-A982,A9B3-A9B3,A9B6-A9B9,A9BC-A9BD,A9C0-A9C0,A9E5-A9E5,AA29-AA2E,AA31-AA32,AA35-AA36," ++
    "AA43-AA43,AA4C-AA4C,AA7C-AA7C,AAB0-AAB0,AAB2-AAB4,AAB7-AAB8,AABE-AABF,AAC1-AAC1,AAEC-AAED,AA" ++
    "F6-AAF6,ABE5-ABE5,ABE8-ABE8,ABED-ABED,FB1E-FB1E,FE00-FE0F,FE20-FE2F,FF9E-FF9F,101FD-101FD,10" ++
    "2E0-102E0,10376-1037A,10A01-10A03,10A05-10A06,10A0C-10A0F,10A38-10A3A,10A3F-10A3F,10AE5-10AE" ++
    "6,10D24-10D27,10D69-10D6D,10EAB-10EAC,10EFC-10EFF,10F46-10F50,10F82-10F85,11001-11001,11038-" ++
    "11046,11070-11070,11073-11074,1107F-11081,110B3-110B6,110B9-110BA,110C2-110C2,11100-11102,11" ++
    "127-1112B,1112D-11134,11173-11173,11180-11181,111B6-111BE,111C0-111C0,111C9-111CC,111CF-111C" ++
    "F,1122F-11231,11234-11237,1123E-1123E,11241-11241,112DF-112DF,112E3-112EA,11300-11301,1133B-" ++
    "1133C,1133E-1133E,11340-11340,1134D-1134D,11357-11357,11366-1136C,11370-11374,113B8-113B8,11" ++
    "3BB-113C0,113C2-113C2,113C5-113C5,113C7-113C9,113CE-113D0,113D2-113D2,113E1-113E2,11438-1143" ++
    "F,11442-11444,11446-11446,1145E-1145E,114B0-114B0,114B3-114B8,114BA-114BA,114BD-114BD,114BF-" ++
    "114C0,114C2-114C3,115AF-115AF,115B2-115B5,115BC-115BD,115BF-115C0,115DC-115DD,11633-1163A,11" ++
    "63D-1163D,1163F-11640,116AB-116AB,116AD-116AD,116B0-116B7,1171D-1171D,1171F-1171F,11722-1172" ++
    "5,11727-1172B,1182F-11837,11839-1183A,11930-11930,1193B-1193E,11943-11943,119D4-119D7,119DA-" ++
    "119DB,119E0-119E0,11A01-11A0A,11A33-11A38,11A3B-11A3E,11A47-11A47,11A51-11A56,11A59-11A5B,11" ++
    "A8A-11A96,11A98-11A99,11C30-11C36,11C38-11C3D,11C3F-11C3F,11C92-11CA7,11CAA-11CB0,11CB2-11CB" ++
    "3,11CB5-11CB6,11D31-11D36,11D3A-11D3A,11D3C-11D3D,11D3F-11D45,11D47-11D47,11D90-11D91,11D95-" ++
    "11D95,11D97-11D97,11EF3-11EF4,11F00-11F01,11F36-11F3A,11F40-11F42,11F5A-11F5A,13440-13440,13" ++
    "447-13455,1611E-16129,1612D-1612F,16AF0-16AF4,16B30-16B36,16F4F-16F4F,16F8F-16F92,16FE4-16FE" ++
    "4,16FF0-16FF1,1BC9D-1BC9E,1CF00-1CF2D,1CF30-1CF46,1D165-1D169,1D16D-1D172,1D17B-1D182,1D185-" ++
    "1D18B,1D1AA-1D1AD,1D242-1D244,1DA00-1DA36,1DA3B-1DA6C,1DA75-1DA75,1DA84-1DA84,1DA9B-1DA9F,1D" ++
    "AA1-1DAAF,1E000-1E006,1E008-1E018,1E01B-1E021,1E023-1E024,1E026-1E02A,1E08F-1E08F,1E130-1E13" ++
    "6,1E2AE-1E2AE,1E2EC-1E2EF,1E4EC-1E4EF,1E5EE-1E5EF,1E8D0-1E8D6,1E944-1E94A,E0020-E007F,E0100-" ++
    "E01EF;Gr_Link,Grapheme_Link:94D-94D,9CD-9CD,A4D-A4D,ACD-ACD,B4D-B4D,BCD-BCD,C4D-C4D,CCD-CCD," ++
    "D3B-D3C,D4D-D4D,DCA-DCA,E3A-E3A,EBA-EBA,F84-F84,1039-103A,1714-1715,1734-1734,17D2-17D2,1A60" ++
    "-1A60,1B44-1B44,1BAA-1BAB,1BF2-1BF3,2D7F-2D7F,A806-A806,A82C-A82C,A8C4-A8C4,A953-A953,A9C0-A" ++
    "9C0,AAF6-AAF6,ABED-ABED,10A3F-10A3F,11046-11046,11070-11070,1107F-1107F,110B9-110B9,11133-11" ++
    "134,111C0-111C0,11235-11235,112EA-112EA,1134D-1134D,113CE-113D0,11442-11442,114C2-114C2,115B" ++
    "F-115BF,1163F-1163F,116B6-116B6,1172B-1172B,11839-11839,1193D-1193E,119E0-119E0,11A34-11A34," ++
    "11A47-11A47,11A99-11A99,11C3F-11C3F,11D44-11D45,11D97-11D97,11F41-11F42,1612F-1612F;Hex,Hex_" ++
    "Digit:30-39,41-46,61-66,FF10-FF19,FF21-FF26,FF41-FF46;Hyphen:2D-2D,AD-AD,58A-58A,1806-1806,2" ++
    "010-2011,2E17-2E17,30FB-30FB,FE63-FE63,FF0D-FF0D,FF65-FF65;ID_Compat_Math_Continue:B2-B3,B9-" ++
    "B9,2070-2070,2074-207E,2080-208E;ID_Compat_Math_Start:2202-2202,2207-2207,221E-221E,1D6C1-1D" ++
    "6C1,1D6DB-1D6DB,1D6FB-1D6FB,1D715-1D715,1D735-1D735,1D74F-1D74F,1D76F-1D76F,1D789-1D789,1D7A" ++
    "9-1D7A9,1D7C3-1D7C3;IDC,ID_Continue:30-39,41-5A,5F-5F,61-7A,AA-AA,B5-B5,B7-B7,BA-BA,C0-D6,D8" ++
    "-F6,F8-2C1,2C6-2D1,2E0-2E4,2EC-2EC,2EE-2EE,300-374,376-377,37A-37D,37F-37F,386-38A,38C-38C,3" ++
    "8E-3A1,3A3-3F5,3F7-481,483-487,48A-52F,531-556,559-559,560-588,591-5BD,5BF-5BF,5C1-5C2,5C4-5" ++
    "C5,5C7-5C7,5D0-5EA,5EF-5F2,610-61A,620-669,66E-6D3,6D5-6DC,6DF-6E8,6EA-6FC,6FF-6FF,710-74A,7" ++
    "4D-7B1,7C0-7F5,7FA-7FA,7FD-7FD,800-82D,840-85B,860-86A,870-887,889-88E,897-8E1,8E3-963,966-9" ++
    "6F,971-983,985-98C,98F-990,993-9A8,9AA-9B0,9B2-9B2,9B6-9B9,9BC-9C4,9C7-9C8,9CB-9CE,9D7-9D7,9" ++
    "DC-9DD,9DF-9E3,9E6-9F1,9FC-9FC,9FE-9FE,A01-A03,A05-A0A,A0F-A10,A13-A28,A2A-A30,A32-A33,A35-A" ++
    "36,A38-A39,A3C-A3C,A3E-A42,A47-A48,A4B-A4D,A51-A51,A59-A5C,A5E-A5E,A66-A75,A81-A83,A85-A8D,A" ++
    "8F-A91,A93-AA8,AAA-AB0,AB2-AB3,AB5-AB9,ABC-AC5,AC7-AC9,ACB-ACD,AD0-AD0,AE0-AE3,AE6-AEF,AF9-A" ++
    "FF,B01-B03,B05-B0C,B0F-B10,B13-B28,B2A-B30,B32-B33,B35-B39,B3C-B44,B47-B48,B4B-B4D,B55-B57,B" ++
    "5C-B5D,B5F-B63,B66-B6F,B71-B71,B82-B83,B85-B8A,B8E-B90,B92-B95,B99-B9A,B9C-B9C,B9E-B9F,BA3-B" ++
    "A4,BA8-BAA,BAE-BB9,BBE-BC2,BC6-BC8,BCA-BCD,BD0-BD0,BD7-BD7,BE6-BEF,C00-C0C,C0E-C10,C12-C28,C" ++
    "2A-C39,C3C-C44,C46-C48,C4A-C4D,C55-C56,C58-C5A,C5D-C5D,C60-C63,C66-C6F,C80-C83,C85-C8C,C8E-C" ++
    "90,C92-CA8,CAA-CB3,CB5-CB9,CBC-CC4,CC6-CC8,CCA-CCD,CD5-CD6,CDD-CDE,CE0-CE3,CE6-CEF,CF1-CF3,D" ++
    "00-D0C,D0E-D10,D12-D44,D46-D48,D4A-D4E,D54-D57,D5F-D63,D66-D6F,D7A-D7F,D81-D83,D85-D96,D9A-D" ++
    "B1,DB3-DBB,DBD-DBD,DC0-DC6,DCA-DCA,DCF-DD4,DD6-DD6,DD8-DDF,DE6-DEF,DF2-DF3,E01-E3A,E40-E4E,E" ++
    "50-E59,E81-E82,E84-E84,E86-E8A,E8C-EA3,EA5-EA5,EA7-EBD,EC0-EC4,EC6-EC6,EC8-ECE,ED0-ED9,EDC-E" ++
    "DF,F00-F00,F18-F19,F20-F29,F35-F35,F37-F37,F39-F39,F3E-F47,F49-F6C,F71-F84,F86-F97,F99-FBC,F" ++
    "C6-FC6,1000-1049,1050-109D,10A0-10C5,10C7-10C7,10CD-10CD,10D0-10FA,10FC-1248,124A-124D,1250-" ++
    "1256,1258-1258,125A-125D,1260-1288,128A-128D,1290-12B0,12B2-12B5,12B8-12BE,12C0-12C0,12C2-12" ++
    "C5,12C8-12D6,12D8-1310,1312-1315,1318-135A,135D-135F,1369-1371,1380-138F,13A0-13F5,13F8-13FD" ++
    ",1401-166C,166F-167F,1681-169A,16A0-16EA,16EE-16F8,1700-1715,171F-1734,1740-1753,1760-176C,1" ++
    "76E-1770,1772-1773,1780-17D3,17D7-17D7,17DC-17DD,17E0-17E9,180B-180D,180F-1819,1820-1878,188" ++
    "0-18AA,18B0-18F5,1900-191E,1920-192B,1930-193B,1946-196D,1970-1974,1980-19AB,19B0-19C9,19D0-" ++
    "19DA,1A00-1A1B,1A20-1A5E,1A60-1A7C,1A7F-1A89,1A90-1A99,1AA7-1AA7,1AB0-1ABD,1ABF-1ACE,1B00-1B" ++
    "4C,1B50-1B59,1B6B-1B73,1B80-1BF3,1C00-1C37,1C40-1C49,1C4D-1C7D,1C80-1C8A,1C90-1CBA,1CBD-1CBF" ++
    ",1CD0-1CD2,1CD4-1CFA,1D00-1F15,1F18-1F1D,1F20-1F45,1F48-1F4D,1F50-1F57,1F59-1F59,1F5B-1F5B,1" ++
    "F5D-1F5D,1F5F-1F7D,1F80-1FB4,1FB6-1FBC,1FBE-1FBE,1FC2-1FC4,1FC6-1FCC,1FD0-1FD3,1FD6-1FDB,1FE" ++
    "0-1FEC,1FF2-1FF4,1FF6-1FFC,200C-200D,203F-2040,2054-2054,2071-2071,207F-207F,2090-209C,20D0-" ++
    "20DC,20E1-20E1,20E5-20F0,2102-2102,2107-2107,210A-2113,2115-2115,2118-211D,2124-2124,2126-21" ++
    "26,2128-2128,212A-2139,213C-213F,2145-2149,214E-214E,2160-2188,2C00-2CE4,2CEB-2CF3,2D00-2D25" ++
    ",2D27-2D27,2D2D-2D2D,2D30-2D67,2D6F-2D6F,2D7F-2D96,2DA0-2DA6,2DA8-2DAE,2DB0-2DB6,2DB8-2DBE,2" ++
    "DC0-2DC6,2DC8-2DCE,2DD0-2DD6,2DD8-2DDE,2DE0-2DFF,3005-3007,3021-302F,3031-3035,3038-303C,304" ++
    "1-3096,3099-309F,30A1-30FF,3105-312F,3131-318E,31A0-31BF,31F0-31FF,3400-4DBF,4E00-A48C,A4D0-" ++
    "A4FD,A500-A60C,A610-A62B,A640-A66F,A674-A67D,A67F-A6F1,A717-A71F,A722-A788,A78B-A7CD,A7D0-A7" ++
    "D1,A7D3-A7D3,A7D5-A7DC,A7F2-A827,A82C-A82C,A840-A873,A880-A8C5,A8D0-A8D9,A8E0-A8F7,A8FB-A8FB" ++
    ",A8FD-A92D,A930-A953,A960-A97C,A980-A9C0,A9CF-A9D9,A9E0-A9FE,AA00-AA36,AA40-AA4D,AA50-AA59,A" ++
    "A60-AA76,AA7A-AAC2,AADB-AADD,AAE0-AAEF,AAF2-AAF6,AB01-AB06,AB09-AB0E,AB11-AB16,AB20-AB26,AB2" ++
    "8-AB2E,AB30-AB5A,AB5C-AB69,AB70-ABEA,ABEC-ABED,ABF0-ABF9,AC00-D7A3,D7B0-D7C6,D7CB-D7FB,F900-" ++
    "FA6D,FA70-FAD9,FB00-FB06,FB13-FB17,FB1D-FB28,FB2A-FB36,FB38-FB3C,FB3E-FB3E,FB40-FB41,FB43-FB" ++
    "44,FB46-FBB1,FBD3-FD3D,FD50-FD8F,FD92-FDC7,FDF0-FDFB,FE00-FE0F,FE20-FE2F,FE33-FE34,FE4D-FE4F" ++
    ",FE70-FE74,FE76-FEFC,FF10-FF19,FF21-FF3A,FF3F-FF3F,FF41-FF5A,FF65-FFBE,FFC2-FFC7,FFCA-FFCF,F" ++
    "FD2-FFD7,FFDA-FFDC,10000-1000B,1000D-10026,10028-1003A,1003C-1003D,1003F-1004D,10050-1005D,1" ++
    "0080-100FA,10140-10174,101FD-101FD,10280-1029C,102A0-102D0,102E0-102E0,10300-1031F,1032D-103" ++
    "4A,10350-1037A,10380-1039D,103A0-103C3,103C8-103CF,103D1-103D5,10400-1049D,104A0-104A9,104B0" ++
    "-104D3,104D8-104FB,10500-10527,10530-10563,10570-1057A,1057C-1058A,1058C-10592,10594-10595,1" ++
    "0597-105A1,105A3-105B1,105B3-105B9,105BB-105BC,105C0-105F3,10600-10736,10740-10755,10760-107" ++
    "67,10780-10785,10787-107B0,107B2-107BA,10800-10805,10808-10808,1080A-10835,10837-10838,1083C" ++
    "-1083C,1083F-10855,10860-10876,10880-1089E,108E0-108F2,108F4-108F5,10900-10915,10920-10939,1" ++
    "0980-109B7,109BE-109BF,10A00-10A03,10A05-10A06,10A0C-10A13,10A15-10A17,10A19-10A35,10A38-10A" ++
    "3A,10A3F-10A3F,10A60-10A7C,10A80-10A9C,10AC0-10AC7,10AC9-10AE6,10B00-10B35,10B40-10B55,10B60" ++
    "-10B72,10B80-10B91,10C00-10C48,10C80-10CB2,10CC0-10CF2,10D00-10D27,10D30-10D39,10D40-10D65,1" ++
    "0D69-10D6D,10D6F-10D85,10E80-10EA9,10EAB-10EAC,10EB0-10EB1,10EC2-10EC4,10EFC-10F1C,10F27-10F" ++
    "27,10F30-10F50,10F70-10F85,10FB0-10FC4,10FE0-10FF6,11000-11046,11066-11075,1107F-110BA,110C2" ++
    "-110C2,110D0-110E8,110F0-110F9,11100-11134,11136-1113F,11144-11147,11150-11173,11176-11176,1" ++
    "1180-111C4,111C9-111CC,111CE-111DA,111DC-111DC,11200-11211,11213-11237,1123E-11241,11280-112" ++
    "86,11288-11288,1128A-1128D,1128F-1129D,1129F-112A8,112B0-112EA,112F0-112F9,11300-11303,11305" ++
    "-1130C,1130F-11310,11313-11328,1132A-11330,11332-11333,11335-11339,1133B-11344,11347-11348,1" ++
    "134B-1134D,11350-11350,11357-11357,1135D-11363,11366-1136C,11370-11374,11380-11389,1138B-113" ++
    "8B,1138E-1138E,11390-113B5,113B7-113C0,113C2-113C2,113C5-113C5,113C7-113CA,113CC-113D3,113E1" ++
    "-113E2,11400-1144A,11450-11459,1145E-11461,11480-114C5,114C7-114C7,114D0-114D9,11580-115B5,1" ++
    "15B8-115C0,115D8-115DD,11600-11640,11644-11644,11650-11659,11680-116B8,116C0-116C9,116D0-116" ++
    "E3,11700-1171A,1171D-1172B,11730-11739,11740-11746,11800-1183A,118A0-118E9,118FF-11906,11909" ++
    "-11909,1190C-11913,11915-11916,11918-11935,11937-11938,1193B-11943,11950-11959,119A0-119A7,1" ++
    "19AA-119D7,119DA-119E1,119E3-119E4,11A00-11A3E,11A47-11A47,11A50-11A99,11A9D-11A9D,11AB0-11A" ++
    "F8,11BC0-11BE0,11BF0-11BF9,11C00-11C08,11C0A-11C36,11C38-11C40,11C50-11C59,11C72-11C8F,11C92" ++
    "-11CA7,11CA9-11CB6,11D00-11D06,11D08-11D09,11D0B-11D36,11D3A-11D3A,11D3C-11D3D,11D3F-11D47,1" ++
    "1D50-11D59,11D60-11D65,11D67-11D68,11D6A-11D8E,11D90-11D91,11D93-11D98,11DA0-11DA9,11EE0-11E" ++
    "F6,11F00-11F10,11F12-11F3A,11F3E-11F42,11F50-11F5A,11FB0-11FB0,12000-12399,12400-1246E,12480" ++
    "-12543,12F90-12FF0,13000-1342F,13440-13455,13460-143FA,14400-14646,16100-16139,16800-16A38,1" ++
    "6A40-16A5E,16A60-16A69,16A70-16ABE,16AC0-16AC9,16AD0-16AED,16AF0-16AF4,16B00-16B36,16B40-16B" ++
    "43,16B50-16B59,16B63-16B77,16B7D-16B8F,16D40-16D6C,16D70-16D79,16E40-16E7F,16F00-16F4A,16F4F" ++
    "-16F87,16F8F-16F9F,16FE0-16FE1,16FE3-16FE4,16FF0-16FF1,17000-187F7,18800-18CD5,18CFF-18D08,1" ++
    "AFF0-1AFF3,1AFF5-1AFFB,1AFFD-1AFFE,1B000-1B122,1B132-1B132,1B150-1B152,1B155-1B155,1B164-1B1" ++
    "67,1B170-1B2FB,1BC00-1BC6A,1BC70-1BC7C,1BC80-1BC88,1BC90-1BC99,1BC9D-1BC9E,1CCF0-1CCF9,1CF00" ++
    "-1CF2D,1CF30-1CF46,1D165-1D169,1D16D-1D172,1D17B-1D182,1D185-1D18B,1D1AA-1D1AD,1D242-1D244,1" ++
    "D400-1D454,1D456-1D49C,1D49E-1D49F,1D4A2-1D4A2,1D4A5-1D4A6,1D4A9-1D4AC,1D4AE-1D4B9,1D4BB-1D4" ++
    "BB,1D4BD-1D4C3,1D4C5-1D505,1D507-1D50A,1D50D-1D514,1D516-1D51C,1D51E-1D539,1D53B-1D53E,1D540" ++
    "-1D544,1D546-1D546,1D54A-1D550,1D552-1D6A5,1D6A8-1D6C0,1D6C2-1D6DA,1D6DC-1D6FA,1D6FC-1D714,1" ++
    "D716-1D734,1D736-1D74E,1D750-1D76E,1D770-1D788,1D78A-1D7A8,1D7AA-1D7C2,1D7C4-1D7CB,1D7CE-1D7" ++
    "FF,1DA00-1DA36,1DA3B-1DA6C,1DA75-1DA75,1DA84-1DA84,1DA9B-1DA9F,1DAA1-1DAAF,1DF00-1DF1E,1DF25" ++
    "-1DF2A,1E000-1E006,1E008-1E018,1E01B-1E021,1E023-1E024,1E026-1E02A,1E030-1E06D,1E08F-1E08F,1" ++
    "E100-1E12C,1E130-1E13D,1E140-1E149,1E14E-1E14E,1E290-1E2AE,1E2C0-1E2F9,1E4D0-1E4F9,1E5D0-1E5" ++
    "FA,1E7E0-1E7E6,1E7E8-1E7EB,1E7ED-1E7EE,1E7F0-1E7FE,1E800-1E8C4,1E8D0-1E8D6,1E900-1E94B,1E950" ++
    "-1E959,1EE00-1EE03,1EE05-1EE1F,1EE21-1EE22,1EE24-1EE24,1EE27-1EE27,1EE29-1EE32,1EE34-1EE37,1" ++
    "EE39-1EE39,1EE3B-1EE3B,1EE42-1EE42,1EE47-1EE47,1EE49-1EE49,1EE4B-1EE4B,1EE4D-1EE4F,1EE51-1EE" ++
    "52,1EE54-1EE54,1EE57-1EE57,1EE59-1EE59,1EE5B-1EE5B,1EE5D-1EE5D,1EE5F-1EE5F,1EE61-1EE62,1EE64" ++
    "-1EE64,1EE67-1EE6A,1EE6C-1EE72,1EE74-1EE77,1EE79-1EE7C,1EE7E-1EE7E,1EE80-1EE89,1EE8B-1EE9B,1" ++
    "EEA1-1EEA3,1EEA5-1EEA9,1EEAB-1EEBB,1FBF0-1FBF9,20000-2A6DF,2A700-2B739,2B740-2B81D,2B820-2CE" ++
    "A1,2CEB0-2EBE0,2EBF0-2EE5D,2F800-2FA1D,30000-3134A,31350-323AF,E0100-E01EF;IDS,ID_Start:41-5" ++
    "A,61-7A,AA-AA,B5-B5,BA-BA,C0-D6,D8-F6,F8-2C1,2C6-2D1,2E0-2E4,2EC-2EC,2EE-2EE,370-374,376-377" ++
    ",37A-37D,37F-37F,386-386,388-38A,38C-38C,38E-3A1,3A3-3F5,3F7-481,48A-52F,531-556,559-559,560" ++
    "-588,5D0-5EA,5EF-5F2,620-64A,66E-66F,671-6D3,6D5-6D5,6E5-6E6,6EE-6EF,6FA-6FC,6FF-6FF,710-710" ++
    ",712-72F,74D-7A5,7B1-7B1,7CA-7EA,7F4-7F5,7FA-7FA,800-815,81A-81A,824-824,828-828,840-858,860" ++
    "-86A,870-887,889-88E,8A0-8C9,904-939,93D-93D,950-950,958-961,971-980,985-98C,98F-990,993-9A8" ++
    ",9AA-9B0,9B2-9B2,9B6-9B9,9BD-9BD,9CE-9CE,9DC-9DD,9DF-9E1,9F0-9F1,9FC-9FC,A05-A0A,A0F-A10,A13" ++
    "-A28,A2A-A30,A32-A33,A35-A36,A38-A39,A59-A5C,A5E-A5E,A72-A74,A85-A8D,A8F-A91,A93-AA8,AAA-AB0" ++
    ",AB2-AB3,AB5-AB9,ABD-ABD,AD0-AD0,AE0-AE1,AF9-AF9,B05-B0C,B0F-B10,B13-B28,B2A-B30,B32-B33,B35" ++
    "-B39,B3D-B3D,B5C-B5D,B5F-B61,B71-B71,B83-B83,B85-B8A,B8E-B90,B92-B95,B99-B9A,B9C-B9C,B9E-B9F" ++
    ",BA3-BA4,BA8-BAA,BAE-BB9,BD0-BD0,C05-C0C,C0E-C10,C12-C28,C2A-C39,C3D-C3D,C58-C5A,C5D-C5D,C60" ++
    "-C61,C80-C80,C85-C8C,C8E-C90,C92-CA8,CAA-CB3,CB5-CB9,CBD-CBD,CDD-CDE,CE0-CE1,CF1-CF2,D04-D0C" ++
    ",D0E-D10,D12-D3A,D3D-D3D,D4E-D4E,D54-D56,D5F-D61,D7A-D7F,D85-D96,D9A-DB1,DB3-DBB,DBD-DBD,DC0" ++
    "-DC6,E01-E30,E32-E33,E40-E46,E81-E82,E84-E84,E86-E8A,E8C-EA3,EA5-EA5,EA7-EB0,EB2-EB3,EBD-EBD" ++
    ",EC0-EC4,EC6-EC6,EDC-EDF,F00-F00,F40-F47,F49-F6C,F88-F8C,1000-102A,103F-103F,1050-1055,105A-" ++
    "105D,1061-1061,1065-1066,106E-1070,1075-1081,108E-108E,10A0-10C5,10C7-10C7,10CD-10CD,10D0-10" ++
    "FA,10FC-1248,124A-124D,1250-1256,1258-1258,125A-125D,1260-1288,128A-128D,1290-12B0,12B2-12B5" ++
    ",12B8-12BE,12C0-12C0,12C2-12C5,12C8-12D6,12D8-1310,1312-1315,1318-135A,1380-138F,13A0-13F5,1" ++
    "3F8-13FD,1401-166C,166F-167F,1681-169A,16A0-16EA,16EE-16F8,1700-1711,171F-1731,1740-1751,176" ++
    "0-176C,176E-1770,1780-17B3,17D7-17D7,17DC-17DC,1820-1878,1880-18A8,18AA-18AA,18B0-18F5,1900-" ++
    "191E,1950-196D,1970-1974,1980-19AB,19B0-19C9,1A00-1A16,1A20-1A54,1AA7-1AA7,1B05-1B33,1B45-1B" ++
    "4C,1B83-1BA0,1BAE-1BAF,1BBA-1BE5,1C00-1C23,1C4D-1C4F,1C5A-1C7D,1C80-1C8A,1C90-1CBA,1CBD-1CBF" ++
    ",1CE9-1CEC,1CEE-1CF3,1CF5-1CF6,1CFA-1CFA,1D00-1DBF,1E00-1F15,1F18-1F1D,1F20-1F45,1F48-1F4D,1" ++
    "F50-1F57,1F59-1F59,1F5B-1F5B,1F5D-1F5D,1F5F-1F7D,1F80-1FB4,1FB6-1FBC,1FBE-1FBE,1FC2-1FC4,1FC" ++
    "6-1FCC,1FD0-1FD3,1FD6-1FDB,1FE0-1FEC,1FF2-1FF4,1FF6-1FFC,2071-2071,207F-207F,2090-209C,2102-" ++
    "2102,2107-2107,210A-2113,2115-2115,2118-211D,2124-2124,2126-2126,2128-2128,212A-2139,213C-21" ++
    "3F,2145-2149,214E-214E,2160-2188,2C00-2CE4,2CEB-2CEE,2CF2-2CF3,2D00-2D25,2D27-2D27,2D2D-2D2D" ++
    ",2D30-2D67,2D6F-2D6F,2D80-2D96,2DA0-2DA6,2DA8-2DAE,2DB0-2DB6,2DB8-2DBE,2DC0-2DC6,2DC8-2DCE,2" ++
    "DD0-2DD6,2DD8-2DDE,3005-3007,3021-3029,3031-3035,3038-303C,3041-3096,309B-309F,30A1-30FA,30F" ++
    "C-30FF,3105-312F,3131-318E,31A0-31BF,31F0-31FF,3400-4DBF,4E00-A48C,A4D0-A4FD,A500-A60C,A610-" ++
    "A61F,A62A-A62B,A640-A66E,A67F-A69D,A6A0-A6EF,A717-A71F,A722-A788,A78B-A7CD,A7D0-A7D1,A7D3-A7" ++
    "D3,A7D5-A7DC,A7F2-A801,A803-A805,A807-A80A,A80C-A822,A840-A873,A882-A8B3,A8F2-A8F7,A8FB-A8FB" ++
    ",A8FD-A8FE,A90A-A925,A930-A946,A960-A97C,A984-A9B2,A9CF-A9CF,A9E0-A9E4,A9E6-A9EF,A9FA-A9FE,A" ++
    "A00-AA28,AA40-AA42,AA44-AA4B,AA60-AA76,AA7A-AA7A,AA7E-AAAF,AAB1-AAB1,AAB5-AAB6,AAB9-AABD,AAC" ++
    "0-AAC0,AAC2-AAC2,AADB-AADD,AAE0-AAEA,AAF2-AAF4,AB01-AB06,AB09-AB0E,AB11-AB16,AB20-AB26,AB28-" ++
    "AB2E,AB30-AB5A,AB5C-AB69,AB70-ABE2,AC00-D7A3,D7B0-D7C6,D7CB-D7FB,F900-FA6D,FA70-FAD9,FB00-FB" ++
    "06,FB13-FB17,FB1D-FB1D,FB1F-FB28,FB2A-FB36,FB38-FB3C,FB3E-FB3E,FB40-FB41,FB43-FB44,FB46-FBB1" ++
    ",FBD3-FD3D,FD50-FD8F,FD92-FDC7,FDF0-FDFB,FE70-FE74,FE76-FEFC,FF21-FF3A,FF41-FF5A,FF66-FFBE,F" ++
    "FC2-FFC7,FFCA-FFCF,FFD2-FFD7,FFDA-FFDC,10000-1000B,1000D-10026,10028-1003A,1003C-1003D,1003F" ++
    "-1004D,10050-1005D,10080-100FA,10140-10174,10280-1029C,102A0-102D0,10300-1031F,1032D-1034A,1" ++
    "0350-10375,10380-1039D,103A0-103C3,103C8-103CF,103D1-103D5,10400-1049D,104B0-104D3,104D8-104" ++
    "FB,10500-10527,10530-10563,10570-1057A,1057C-1058A,1058C-10592,10594-10595,10597-105A1,105A3" ++
    "-105B1,105B3-105B9,105BB-105BC,105C0-105F3,10600-10736,10740-10755,10760-10767,10780-10785,1" ++
    "0787-107B0,107B2-107BA,10800-10805,10808-10808,1080A-10835,10837-10838,1083C-1083C,1083F-108" ++
    "55,10860-10876,10880-1089E,108E0-108F2,108F4-108F5,10900-10915,10920-10939,10980-109B7,109BE" ++
    "-109BF,10A00-10A00,10A10-10A13,10A15-10A17,10A19-10A35,10A60-10A7C,10A80-10A9C,10AC0-10AC7,1" ++
    "0AC9-10AE4,10B00-10B35,10B40-10B55,10B60-10B72,10B80-10B91,10C00-10C48,10C80-10CB2,10CC0-10C" ++
    "F2,10D00-10D23,10D4A-10D65,10D6F-10D85,10E80-10EA9,10EB0-10EB1,10EC2-10EC4,10F00-10F1C,10F27" ++
    "-10F27,10F30-10F45,10F70-10F81,10FB0-10FC4,10FE0-10FF6,11003-11037,11071-11072,11075-11075,1" ++
    "1083-110AF,110D0-110E8,11103-11126,11144-11144,11147-11147,11150-11172,11176-11176,11183-111" ++
    "B2,111C1-111C4,111DA-111DA,111DC-111DC,11200-11211,11213-1122B,1123F-11240,11280-11286,11288" ++
    "-11288,1128A-1128D,1128F-1129D,1129F-112A8,112B0-112DE,11305-1130C,1130F-11310,11313-11328,1" ++
    "132A-11330,11332-11333,11335-11339,1133D-1133D,11350-11350,1135D-11361,11380-11389,1138B-113" ++
    "8B,1138E-1138E,11390-113B5,113B7-113B7,113D1-113D1,113D3-113D3,11400-11434,11447-1144A,1145F" ++
    "-11461,11480-114AF,114C4-114C5,114C7-114C7,11580-115AE,115D8-115DB,11600-1162F,11644-11644,1" ++
    "1680-116AA,116B8-116B8,11700-1171A,11740-11746,11800-1182B,118A0-118DF,118FF-11906,11909-119" ++
    "09,1190C-11913,11915-11916,11918-1192F,1193F-1193F,11941-11941,119A0-119A7,119AA-119D0,119E1" ++
    "-119E1,119E3-119E3,11A00-11A00,11A0B-11A32,11A3A-11A3A,11A50-11A50,11A5C-11A89,11A9D-11A9D,1" ++
    "1AB0-11AF8,11BC0-11BE0,11C00-11C08,11C0A-11C2E,11C40-11C40,11C72-11C8F,11D00-11D06,11D08-11D" ++
    "09,11D0B-11D30,11D46-11D46,11D60-11D65,11D67-11D68,11D6A-11D89,11D98-11D98,11EE0-11EF2,11F02" ++
    "-11F02,11F04-11F10,11F12-11F33,11FB0-11FB0,12000-12399,12400-1246E,12480-12543,12F90-12FF0,1" ++
    "3000-1342F,13441-13446,13460-143FA,14400-14646,16100-1611D,16800-16A38,16A40-16A5E,16A70-16A" ++
    "BE,16AD0-16AED,16B00-16B2F,16B40-16B43,16B63-16B77,16B7D-16B8F,16D40-16D6C,16E40-16E7F,16F00" ++
    "-16F4A,16F50-16F50,16F93-16F9F,16FE0-16FE1,16FE3-16FE3,17000-187F7,18800-18CD5,18CFF-18D08,1" ++
    "AFF0-1AFF3,1AFF5-1AFFB,1AFFD-1AFFE,1B000-1B122,1B132-1B132,1B150-1B152,1B155-1B155,1B164-1B1" ++
    "67,1B170-1B2FB,1BC00-1BC6A,1BC70-1BC7C,1BC80-1BC88,1BC90-1BC99,1D400-1D454,1D456-1D49C,1D49E" ++
    "-1D49F,1D4A2-1D4A2,1D4A5-1D4A6,1D4A9-1D4AC,1D4AE-1D4B9,1D4BB-1D4BB,1D4BD-1D4C3,1D4C5-1D505,1" ++
    "D507-1D50A,1D50D-1D514,1D516-1D51C,1D51E-1D539,1D53B-1D53E,1D540-1D544,1D546-1D546,1D54A-1D5" ++
    "50,1D552-1D6A5,1D6A8-1D6C0,1D6C2-1D6DA,1D6DC-1D6FA,1D6FC-1D714,1D716-1D734,1D736-1D74E,1D750" ++
    "-1D76E,1D770-1D788,1D78A-1D7A8,1D7AA-1D7C2,1D7C4-1D7CB,1DF00-1DF1E,1DF25-1DF2A,1E030-1E06D,1" ++
    "E100-1E12C,1E137-1E13D,1E14E-1E14E,1E290-1E2AD,1E2C0-1E2EB,1E4D0-1E4EB,1E5D0-1E5ED,1E5F0-1E5" ++
    "F0,1E7E0-1E7E6,1E7E8-1E7EB,1E7ED-1E7EE,1E7F0-1E7FE,1E800-1E8C4,1E900-1E943,1E94B-1E94B,1EE00" ++
    "-1EE03,1EE05-1EE1F,1EE21-1EE22,1EE24-1EE24,1EE27-1EE27,1EE29-1EE32,1EE34-1EE37,1EE39-1EE39,1" ++
    "EE3B-1EE3B,1EE42-1EE42,1EE47-1EE47,1EE49-1EE49,1EE4B-1EE4B,1EE4D-1EE4F,1EE51-1EE52,1EE54-1EE" ++
    "54,1EE57-1EE57,1EE59-1EE59,1EE5B-1EE5B,1EE5D-1EE5D,1EE5F-1EE5F,1EE61-1EE62,1EE64-1EE64,1EE67" ++
    "-1EE6A,1EE6C-1EE72,1EE74-1EE77,1EE79-1EE7C,1EE7E-1EE7E,1EE80-1EE89,1EE8B-1EE9B,1EEA1-1EEA3,1" ++
    "EEA5-1EEA9,1EEAB-1EEBB,20000-2A6DF,2A700-2B739,2B740-2B81D,2B820-2CEA1,2CEB0-2EBE0,2EBF0-2EE" ++
    "5D,2F800-2FA1D,30000-3134A,31350-323AF;Ideo,Ideographic:3006-3007,3021-3029,3038-303A,3400-4" ++
    "DBF,4E00-9FFF,F900-FA6D,FA70-FAD9,16FE4-16FE4,17000-187F7,18800-18CD5,18CFF-18D08,1B170-1B2F" ++
    "B,20000-2A6DF,2A700-2B739,2B740-2B81D,2B820-2CEA1,2CEB0-2EBE0,2EBF0-2EE5D,2F800-2FA1D,30000-" ++
    "3134A,31350-323AF;IDSB,IDS_Binary_Operator:2FF0-2FF1,2FF4-2FFD,31EF-31EF;IDST,IDS_Trinary_Op" ++
    "erator:2FF2-2FF3;IDSU,IDS_Unary_Operator:2FFE-2FFF;Join_C,Join_Control:200C-200D;LOE,Logical" ++
    "_Order_Exception:E40-E44,EC0-EC4,19B5-19B7,19BA-19BA,AAB5-AAB6,AAB9-AAB9,AABB-AABC;Lower,Low" ++
    "ercase:61-7A,AA-AA,B5-B5,BA-BA,DF-F6,F8-FF,101-101,103-103,105-105,107-107,109-109,10B-10B,1" ++
    "0D-10D,10F-10F,111-111,113-113,115-115,117-117,119-119,11B-11B,11D-11D,11F-11F,121-121,123-1" ++
    "23,125-125,127-127,129-129,12B-12B,12D-12D,12F-12F,131-131,133-133,135-135,137-138,13A-13A,1" ++
    "3C-13C,13E-13E,140-140,142-142,144-144,146-146,148-149,14B-14B,14D-14D,14F-14F,151-151,153-1" ++
    "53,155-155,157-157,159-159,15B-15B,15D-15D,15F-15F,161-161,163-163,165-165,167-167,169-169,1" ++
    "6B-16B,16D-16D,16F-16F,171-171,173-173,175-175,177-177,17A-17A,17C-17C,17E-180,183-183,185-1" ++
    "85,188-188,18C-18D,192-192,195-195,199-19B,19E-19E,1A1-1A1,1A3-1A3,1A5-1A5,1A8-1A8,1AA-1AB,1" ++
    "AD-1AD,1B0-1B0,1B4-1B4,1B6-1B6,1B9-1BA,1BD-1BF,1C6-1C6,1C9-1C9,1CC-1CC,1CE-1CE,1D0-1D0,1D2-1" ++
    "D2,1D4-1D4,1D6-1D6,1D8-1D8,1DA-1DA,1DC-1DD,1DF-1DF,1E1-1E1,1E3-1E3,1E5-1E5,1E7-1E7,1E9-1E9,1" ++
    "EB-1EB,1ED-1ED,1EF-1F0,1F3-1F3,1F5-1F5,1F9-1F9,1FB-1FB,1FD-1FD,1FF-1FF,201-201,203-203,205-2" ++
    "05,207-207,209-209,20B-20B,20D-20D,20F-20F,211-211,213-213,215-215,217-217,219-219,21B-21B,2" ++
    "1D-21D,21F-21F,221-221,223-223,225-225,227-227,229-229,22B-22B,22D-22D,22F-22F,231-231,233-2" ++
    "39,23C-23C,23F-240,242-242,247-247,249-249,24B-24B,24D-24D,24F-293,296-2B8,2C0-2C1,2E0-2E4,3" ++
    "45-345,371-371,373-373,377-377,37A-37D,390-390,3AC-3CE,3D0-3D1,3D5-3D7,3D9-3D9,3DB-3DB,3DD-3" ++
    "DD,3DF-3DF,3E1-3E1,3E3-3E3,3E5-3E5,3E7-3E7,3E9-3E9,3EB-3EB,3ED-3ED,3EF-3F3,3F5-3F5,3F8-3F8,3" ++
    "FB-3FC,430-45F,461-461,463-463,465-465,467-467,469-469,46B-46B,46D-46D,46F-46F,471-471,473-4" ++
    "73,475-475,477-477,479-479,47B-47B,47D-47D,47F-47F,481-481,48B-48B,48D-48D,48F-48F,491-491,4" ++
    "93-493,495-495,497-497,499-499,49B-49B,49D-49D,49F-49F,4A1-4A1,4A3-4A3,4A5-4A5,4A7-4A7,4A9-4" ++
    "A9,4AB-4AB,4AD-4AD,4AF-4AF,4B1-4B1,4B3-4B3,4B5-4B5,4B7-4B7,4B9-4B9,4BB-4BB,4BD-4BD,4BF-4BF,4" ++
    "C2-4C2,4C4-4C4,4C6-4C6,4C8-4C8,4CA-4CA,4CC-4CC,4CE-4CF,4D1-4D1,4D3-4D3,4D5-4D5,4D7-4D7,4D9-4" ++
    "D9,4DB-4DB,4DD-4DD,4DF-4DF,4E1-4E1,4E3-4E3,4E5-4E5,4E7-4E7,4E9-4E9,4EB-4EB,4ED-4ED,4EF-4EF,4" ++
    "F1-4F1,4F3-4F3,4F5-4F5,4F7-4F7,4F9-4F9,4FB-4FB,4FD-4FD,4FF-4FF,501-501,503-503,505-505,507-5" ++
    "07,509-509,50B-50B,50D-50D,50F-50F,511-511,513-513,515-515,517-517,519-519,51B-51B,51D-51D,5" ++
    "1F-51F,521-521,523-523,525-525,527-527,529-529,52B-52B,52D-52D,52F-52F,560-588,10D0-10FA,10F" ++
    "C-10FF,13F8-13FD,1C80-1C88,1C8A-1C8A,1D00-1DBF,1E01-1E01,1E03-1E03,1E05-1E05,1E07-1E07,1E09-" ++
    "1E09,1E0B-1E0B,1E0D-1E0D,1E0F-1E0F,1E11-1E11,1E13-1E13,1E15-1E15,1E17-1E17,1E19-1E19,1E1B-1E" ++
    "1B,1E1D-1E1D,1E1F-1E1F,1E21-1E21,1E23-1E23,1E25-1E25,1E27-1E27,1E29-1E29,1E2B-1E2B,1E2D-1E2D" ++
    ",1E2F-1E2F,1E31-1E31,1E33-1E33,1E35-1E35,1E37-1E37,1E39-1E39,1E3B-1E3B,1E3D-1E3D,1E3F-1E3F,1" ++
    "E41-1E41,1E43-1E43,1E45-1E45,1E47-1E47,1E49-1E49,1E4B-1E4B,1E4D-1E4D,1E4F-1E4F,1E51-1E51,1E5" ++
    "3-1E53,1E55-1E55,1E57-1E57,1E59-1E59,1E5B-1E5B,1E5D-1E5D,1E5F-1E5F,1E61-1E61,1E63-1E63,1E65-" ++
    "1E65,1E67-1E67,1E69-1E69,1E6B-1E6B,1E6D-1E6D,1E6F-1E6F,1E71-1E71,1E73-1E73,1E75-1E75,1E77-1E" ++
    "77,1E79-1E79,1E7B-1E7B,1E7D-1E7D,1E7F-1E7F,1E81-1E81,1E83-1E83,1E85-1E85,1E87-1E87,1E89-1E89" ++
    ",1E8B-1E8B,1E8D-1E8D,1E8F-1E8F,1E91-1E91,1E93-1E93,1E95-1E9D,1E9F-1E9F,1EA1-1EA1,1EA3-1EA3,1" ++
    "EA5-1EA5,1EA7-1EA7,1EA9-1EA9,1EAB-1EAB,1EAD-1EAD,1EAF-1EAF,1EB1-1EB1,1EB3-1EB3,1EB5-1EB5,1EB" ++
    "7-1EB7,1EB9-1EB9,1EBB-1EBB,1EBD-1EBD,1EBF-1EBF,1EC1-1EC1,1EC3-1EC3,1EC5-1EC5,1EC7-1EC7,1EC9-" ++
    "1EC9,1ECB-1ECB,1ECD-1ECD,1ECF-1ECF,1ED1-1ED1,1ED3-1ED3,1ED5-1ED5,1ED7-1ED7,1ED9-1ED9,1EDB-1E" ++
    "DB,1EDD-1EDD,1EDF-1EDF,1EE1-1EE1,1EE3-1EE3,1EE5-1EE5,1EE7-1EE7,1EE9-1EE9,1EEB-1EEB,1EED-1EED" ++
    ",1EEF-1EEF,1EF1-1EF1,1EF3-1EF3,1EF5-1EF5,1EF7-1EF7,1EF9-1EF9,1EFB-1EFB,1EFD-1EFD,1EFF-1F07,1" ++
    "F10-1F15,1F20-1F27,1F30-1F37,1F40-1F45,1F50-1F57,1F60-1F67,1F70-1F7D,1F80-1F87,1F90-1F97,1FA" ++
    "0-1FA7,1FB0-1FB4,1FB6-1FB7,1FBE-1FBE,1FC2-1FC4,1FC6-1FC7,1FD0-1FD3,1FD6-1FD7,1FE0-1FE7,1FF2-" ++
    "1FF4,1FF6-1FF7,2071-2071,207F-207F,2090-209C,210A-210A,210E-210F,2113-2113,212F-212F,2134-21" ++
    "34,2139-2139,213C-213D,2146-2149,214E-214E,2170-217F,2184-2184,24D0-24E9,2C30-2C5F,2C61-2C61" ++
    ",2C65-2C66,2C68-2C68,2C6A-2C6A,2C6C-2C6C,2C71-2C71,2C73-2C74,2C76-2C7D,2C81-2C81,2C83-2C83,2" ++
    "C85-2C85,2C87-2C87,2C89-2C89,2C8B-2C8B,2C8D-2C8D,2C8F-2C8F,2C91-2C91,2C93-2C93,2C95-2C95,2C9" ++
    "7-2C97,2C99-2C99,2C9B-2C9B,2C9D-2C9D,2C9F-2C9F,2CA1-2CA1,2CA3-2CA3,2CA5-2CA5,2CA7-2CA7,2CA9-" ++
    "2CA9,2CAB-2CAB,2CAD-2CAD,2CAF-2CAF,2CB1-2CB1,2CB3-2CB3,2CB5-2CB5,2CB7-2CB7,2CB9-2CB9,2CBB-2C" ++
    "BB,2CBD-2CBD,2CBF-2CBF,2CC1-2CC1,2CC3-2CC3,2CC5-2CC5,2CC7-2CC7,2CC9-2CC9,2CCB-2CCB,2CCD-2CCD" ++
    ",2CCF-2CCF,2CD1-2CD1,2CD3-2CD3,2CD5-2CD5,2CD7-2CD7,2CD9-2CD9,2CDB-2CDB,2CDD-2CDD,2CDF-2CDF,2" ++
    "CE1-2CE1,2CE3-2CE4,2CEC-2CEC,2CEE-2CEE,2CF3-2CF3,2D00-2D25,2D27-2D27,2D2D-2D2D,A641-A641,A64" ++
    "3-A643,A645-A645,A647-A647,A649-A649,A64B-A64B,A64D-A64D,A64F-A64F,A651-A651,A653-A653,A655-" ++
    "A655,A657-A657,A659-A659,A65B-A65B,A65D-A65D,A65F-A65F,A661-A661,A663-A663,A665-A665,A667-A6" ++
    "67,A669-A669,A66B-A66B,A66D-A66D,A681-A681,A683-A683,A685-A685,A687-A687,A689-A689,A68B-A68B" ++
    ",A68D-A68D,A68F-A68F,A691-A691,A693-A693,A695-A695,A697-A697,A699-A699,A69B-A69D,A723-A723,A" ++
    "725-A725,A727-A727,A729-A729,A72B-A72B,A72D-A72D,A72F-A731,A733-A733,A735-A735,A737-A737,A73" ++
    "9-A739,A73B-A73B,A73D-A73D,A73F-A73F,A741-A741,A743-A743,A745-A745,A747-A747,A749-A749,A74B-" ++
    "A74B,A74D-A74D,A74F-A74F,A751-A751,A753-A753,A755-A755,A757-A757,A759-A759,A75B-A75B,A75D-A7" ++
    "5D,A75F-A75F,A761-A761,A763-A763,A765-A765,A767-A767,A769-A769,A76B-A76B,A76D-A76D,A76F-A778" ++
    ",A77A-A77A,A77C-A77C,A77F-A77F,A781-A781,A783-A783,A785-A785,A787-A787,A78C-A78C,A78E-A78E,A" ++
    "791-A791,A793-A795,A797-A797,A799-A799,A79B-A79B,A79D-A79D,A79F-A79F,A7A1-A7A1,A7A3-A7A3,A7A" ++
    "5-A7A5,A7A7-A7A7,A7A9-A7A9,A7AF-A7AF,A7B5-A7B5,A7B7-A7B7,A7B9-A7B9,A7BB-A7BB,A7BD-A7BD,A7BF-" ++
    "A7BF,A7C1-A7C1,A7C3-A7C3,A7C8-A7C8,A7CA-A7CA,A7CD-A7CD,A7D1-A7D1,A7D3-A7D3,A7D5-A7D5,A7D7-A7" ++
    "D7,A7D9-A7D9,A7DB-A7DB,A7F2-A7F4,A7F6-A7F6,A7F8-A7FA,AB30-AB5A,AB5C-AB69,AB70-ABBF,FB00-FB06" ++
    ",FB13-FB17,FF41-FF5A,10428-1044F,104D8-104FB,10597-105A1,105A3-105B1,105B3-105B9,105BB-105BC" ++
    ",10780-10780,10783-10785,10787-107B0,107B2-107BA,10CC0-10CF2,10D70-10D85,118C0-118DF,16E60-1" ++
    "6E7F,1D41A-1D433,1D44E-1D454,1D456-1D467,1D482-1D49B,1D4B6-1D4B9,1D4BB-1D4BB,1D4BD-1D4C3,1D4" ++
    "C5-1D4CF,1D4EA-1D503,1D51E-1D537,1D552-1D56B,1D586-1D59F,1D5BA-1D5D3,1D5EE-1D607,1D622-1D63B" ++
    ",1D656-1D66F,1D68A-1D6A5,1D6C2-1D6DA,1D6DC-1D6E1,1D6FC-1D714,1D716-1D71B,1D736-1D74E,1D750-1" ++
    "D755,1D770-1D788,1D78A-1D78F,1D7AA-1D7C2,1D7C4-1D7C9,1D7CB-1D7CB,1DF00-1DF09,1DF0B-1DF1E,1DF" ++
    "25-1DF2A,1E030-1E06D,1E922-1E943;Math:2B-2B,3C-3E,5E-5E,7C-7C,7E-7E,AC-AC,B1-B1,D7-D7,F7-F7," ++
    "3D0-3D2,3D5-3D5,3F0-3F1,3F4-3F6,606-608,2016-2016,2032-2034,2040-2040,2044-2044,2052-2052,20" ++
    "61-2064,207A-207E,208A-208E,20D0-20DC,20E1-20E1,20E5-20E6,20EB-20EF,2102-2102,2107-2107,210A" ++
    "-2113,2115-2115,2118-211D,2124-2124,2128-2129,212C-212D,212F-2131,2133-2138,213C-2149,214B-2" ++
    "14B,2190-21A7,21A9-21AE,21B0-21B1,21B6-21B7,21BC-21DB,21DD-21DD,21E4-21E5,21F4-22FF,2308-230" ++
    "B,2320-2321,237C-237C,239B-23B5,23B7-23B7,23D0-23D0,23DC-23E2,25A0-25A1,25AE-25B7,25BC-25C1," ++
    "25C6-25C7,25CA-25CB,25CF-25D3,25E2-25E2,25E4-25E4,25E7-25EC,25F8-25FF,2605-2606,2640-2640,26" ++
    "42-2642,2660-2663,266D-266F,27C0-27FF,2900-2AFF,2B30-2B44,2B47-2B4C,FB29-FB29,FE61-FE66,FE68" ++
    "-FE68,FF0B-FF0B,FF1C-FF1E,FF3C-FF3C,FF3E-FF3E,FF5C-FF5C,FF5E-FF5E,FFE2-FFE2,FFE9-FFEC,10D8E-" ++
    "10D8F,1D400-1D454,1D456-1D49C,1D49E-1D49F,1D4A2-1D4A2,1D4A5-1D4A6,1D4A9-1D4AC,1D4AE-1D4B9,1D" ++
    "4BB-1D4BB,1D4BD-1D4C3,1D4C5-1D505,1D507-1D50A,1D50D-1D514,1D516-1D51C,1D51E-1D539,1D53B-1D53" ++
    "E,1D540-1D544,1D546-1D546,1D54A-1D550,1D552-1D6A5,1D6A8-1D7CB,1D7CE-1D7FF,1EE00-1EE03,1EE05-" ++
    "1EE1F,1EE21-1EE22,1EE24-1EE24,1EE27-1EE27,1EE29-1EE32,1EE34-1EE37,1EE39-1EE39,1EE3B-1EE3B,1E" ++
    "E42-1EE42,1EE47-1EE47,1EE49-1EE49,1EE4B-1EE4B,1EE4D-1EE4F,1EE51-1EE52,1EE54-1EE54,1EE57-1EE5" ++
    "7,1EE59-1EE59,1EE5B-1EE5B,1EE5D-1EE5D,1EE5F-1EE5F,1EE61-1EE62,1EE64-1EE64,1EE67-1EE6A,1EE6C-" ++
    "1EE72,1EE74-1EE77,1EE79-1EE7C,1EE7E-1EE7E,1EE80-1EE89,1EE8B-1EE9B,1EEA1-1EEA3,1EEA5-1EEA9,1E" ++
    "EAB-1EEBB,1EEF0-1EEF1;MCM,Modifier_Combining_Mark:654-655,658-658,6DC-6DC,6E3-6E3,6E7-6E8,8C" ++
    "A-8CB,8CD-8CF,8D3-8D3,8F3-8F3;NChar,Noncharacter_Code_Point:FDD0-FDEF,FFFE-FFFF,1FFFE-1FFFF," ++
    "2FFFE-2FFFF,3FFFE-3FFFF,4FFFE-4FFFF,5FFFE-5FFFF,6FFFE-6FFFF,7FFFE-7FFFF,8FFFE-8FFFF,9FFFE-9F" ++
    "FFF,AFFFE-AFFFF,BFFFE-BFFFF,CFFFE-CFFFF,DFFFE-DFFFF,EFFFE-EFFFF,FFFFE-FFFFF,10FFFE-10FFFF;OA" ++
    "lpha,Other_Alphabetic:345-345,363-36F,5B0-5BD,5BF-5BF,5C1-5C2,5C4-5C5,5C7-5C7,610-61A,64B-65" ++
    "7,659-65F,670-670,6D6-6DC,6E1-6E4,6E7-6E8,6ED-6ED,711-711,730-73F,7A6-7B0,816-817,81B-823,82" ++
    "5-827,829-82C,897-897,8D4-8DF,8E3-8E9,8F0-903,93A-93B,93E-94C,94E-94F,955-957,962-963,981-98" ++
    "3,9BE-9C4,9C7-9C8,9CB-9CC,9D7-9D7,9E2-9E3,A01-A03,A3E-A42,A47-A48,A4B-A4C,A51-A51,A70-A71,A7" ++
    "5-A75,A81-A83,ABE-AC5,AC7-AC9,ACB-ACC,AE2-AE3,AFA-AFC,B01-B03,B3E-B44,B47-B48,B4B-B4C,B56-B5" ++
    "7,B62-B63,B82-B82,BBE-BC2,BC6-BC8,BCA-BCC,BD7-BD7,C00-C04,C3E-C44,C46-C48,C4A-C4C,C55-C56,C6" ++
    "2-C63,C81-C83,CBE-CC4,CC6-CC8,CCA-CCC,CD5-CD6,CE2-CE3,CF3-CF3,D00-D03,D3E-D44,D46-D48,D4A-D4" ++
    "C,D57-D57,D62-D63,D81-D83,DCF-DD4,DD6-DD6,DD8-DDF,DF2-DF3,E31-E31,E34-E3A,E4D-E4D,EB1-EB1,EB" ++
    "4-EB9,EBB-EBC,ECD-ECD,F71-F83,F8D-F97,F99-FBC,102B-1036,1038-1038,103B-103E,1056-1059,105E-1" ++
    "060,1062-1064,1067-106D,1071-1074,1082-108D,108F-108F,109A-109D,1712-1713,1732-1733,1752-175" ++
    "3,1772-1773,17B6-17C8,1885-1886,18A9-18A9,1920-192B,1930-1938,1A17-1A1B,1A55-1A5E,1A61-1A74," ++
    "1ABF-1AC0,1ACC-1ACE,1B00-1B04,1B35-1B43,1B80-1B82,1BA1-1BA9,1BAC-1BAD,1BE7-1BF1,1C24-1C36,1D" ++
    "D3-1DF4,24B6-24E9,2DE0-2DFF,A674-A67B,A69E-A69F,A802-A802,A80B-A80B,A823-A827,A880-A881,A8B4" ++
    "-A8C3,A8C5-A8C5,A8FF-A8FF,A926-A92A,A947-A952,A980-A983,A9B4-A9BF,A9E5-A9E5,AA29-AA36,AA43-A" ++
    "A43,AA4C-AA4D,AA7B-AA7D,AAB0-AAB0,AAB2-AAB4,AAB7-AAB8,AABE-AABE,AAEB-AAEF,AAF5-AAF5,ABE3-ABE" ++
    "A,FB1E-FB1E,10376-1037A,10A01-10A03,10A05-10A06,10A0C-10A0F,10D24-10D27,10D69-10D69,10EAB-10" ++
    "EAC,10EFC-10EFC,11000-11002,11038-11045,11073-11074,11080-11082,110B0-110B8,110C2-110C2,1110" ++
    "0-11102,11127-11132,11145-11146,11180-11182,111B3-111BF,111CE-111CF,1122C-11234,11237-11237," ++
    "1123E-1123E,11241-11241,112DF-112E8,11300-11303,1133E-11344,11347-11348,1134B-1134C,11357-11" ++
    "357,11362-11363,113B8-113C0,113C2-113C2,113C5-113C5,113C7-113CA,113CC-113CD,11435-11441,1144" ++
    "3-11445,114B0-114C1,115AF-115B5,115B8-115BE,115DC-115DD,11630-1163E,11640-11640,116AB-116B5," ++
    "1171D-1172A,1182C-11838,11930-11935,11937-11938,1193B-1193C,11940-11940,11942-11942,119D1-11" ++
    "9D7,119DA-119DF,119E4-119E4,11A01-11A0A,11A35-11A39,11A3B-11A3E,11A51-11A5B,11A8A-11A97,11C2" ++
    "F-11C36,11C38-11C3E,11C92-11CA7,11CA9-11CB6,11D31-11D36,11D3A-11D3A,11D3C-11D3D,11D3F-11D41," ++
    "11D43-11D43,11D47-11D47,11D8A-11D8E,11D90-11D91,11D93-11D96,11EF3-11EF6,11F00-11F01,11F03-11" ++
    "F03,11F34-11F3A,11F3E-11F40,1611E-1612E,16F4F-16F4F,16F51-16F87,16F8F-16F92,16FF0-16FF1,1BC9" ++
    "E-1BC9E,1E000-1E006,1E008-1E018,1E01B-1E021,1E023-1E024,1E026-1E02A,1E08F-1E08F,1E947-1E947," ++
    "1F130-1F149,1F150-1F169,1F170-1F189;ODI,Other_Default_Ignorable_Code_Point:34F-34F,115F-1160" ++
    ",17B4-17B5,2065-2065,3164-3164,FFA0-FFA0,FFF0-FFF8,E0000-E0000,E0002-E001F,E0080-E00FF,E01F0" ++
    "-E0FFF;OGr_Ext,Other_Grapheme_Extend:9BE-9BE,9D7-9D7,B3E-B3E,B57-B57,BBE-BBE,BD7-BD7,CC0-CC0" ++
    ",CC2-CC2,CC7-CC8,CCA-CCB,CD5-CD6,D3E-D3E,D57-D57,DCF-DCF,DDF-DDF,1715-1715,1734-1734,1B35-1B" ++
    "35,1B3B-1B3B,1B3D-1B3D,1B43-1B44,1BAA-1BAA,1BF2-1BF3,200C-200C,302E-302F,A953-A953,A9C0-A9C0" ++
    ",FF9E-FF9F,111C0-111C0,11235-11235,1133E-1133E,1134D-1134D,11357-11357,113B8-113B8,113C2-113" ++
    "C2,113C5-113C5,113C7-113C9,113CF-113CF,114B0-114B0,114BD-114BD,115AF-115AF,116B6-116B6,11930" ++
    "-11930,1193D-1193D,11F41-11F41,16FF0-16FF1,1D165-1D166,1D16D-1D172,E0020-E007F;OIDC,Other_ID" ++
    "_Continue:B7-B7,387-387,1369-1371,19DA-19DA,200C-200D,30FB-30FB,FF65-FF65;OIDS,Other_ID_Star" ++
    "t:1885-1886,2118-2118,212E-212E,309B-309C;OLower,Other_Lowercase:AA-AA,BA-BA,2B0-2B8,2C0-2C1" ++
    ",2E0-2E4,345-345,37A-37A,10FC-10FC,1D2C-1D6A,1D78-1D78,1D9B-1DBF,2071-2071,207F-207F,2090-20" ++
    "9C,2170-217F,24D0-24E9,2C7C-2C7D,A69C-A69D,A770-A770,A7F2-A7F4,A7F8-A7F9,AB5C-AB5F,AB69-AB69" ++
    ",10780-10780,10783-10785,10787-107B0,107B2-107BA,1E030-1E06D;OMath,Other_Math:5E-5E,3D0-3D2," ++
    "3D5-3D5,3F0-3F1,3F4-3F5,2016-2016,2032-2034,2040-2040,2061-2064,207D-207E,208D-208E,20D0-20D" ++
    "C,20E1-20E1,20E5-20E6,20EB-20EF,2102-2102,2107-2107,210A-2113,2115-2115,2119-211D,2124-2124," ++
    "2128-2129,212C-212D,212F-2131,2133-2138,213C-213F,2145-2149,2195-2199,219C-219F,21A1-21A2,21" ++
    "A4-21A5,21A7-21A7,21A9-21AD,21B0-21B1,21B6-21B7,21BC-21CD,21D0-21D1,21D3-21D3,21D5-21DB,21DD" ++
    "-21DD,21E4-21E5,2308-230B,23B4-23B5,23B7-23B7,23D0-23D0,23E2-23E2,25A0-25A1,25AE-25B6,25BC-2" ++
    "5C0,25C6-25C7,25CA-25CB,25CF-25D3,25E2-25E2,25E4-25E4,25E7-25EC,2605-2606,2640-2640,2642-264" ++
    "2,2660-2663,266D-266E,27C5-27C6,27E6-27EF,2983-2998,29D8-29DB,29FC-29FD,FE61-FE61,FE63-FE63," ++
    "FE68-FE68,FF3C-FF3C,FF3E-FF3E,1D400-1D454,1D456-1D49C,1D49E-1D49F,1D4A2-1D4A2,1D4A5-1D4A6,1D" ++
    "4A9-1D4AC,1D4AE-1D4B9,1D4BB-1D4BB,1D4BD-1D4C3,1D4C5-1D505,1D507-1D50A,1D50D-1D514,1D516-1D51" ++
    "C,1D51E-1D539,1D53B-1D53E,1D540-1D544,1D546-1D546,1D54A-1D550,1D552-1D6A5,1D6A8-1D6C0,1D6C2-" ++
    "1D6DA,1D6DC-1D6FA,1D6FC-1D714,1D716-1D734,1D736-1D74E,1D750-1D76E,1D770-1D788,1D78A-1D7A8,1D" ++
    "7AA-1D7C2,1D7C4-1D7CB,1D7CE-1D7FF,1EE00-1EE03,1EE05-1EE1F,1EE21-1EE22,1EE24-1EE24,1EE27-1EE2" ++
    "7,1EE29-1EE32,1EE34-1EE37,1EE39-1EE39,1EE3B-1EE3B,1EE42-1EE42,1EE47-1EE47,1EE49-1EE49,1EE4B-" ++
    "1EE4B,1EE4D-1EE4F,1EE51-1EE52,1EE54-1EE54,1EE57-1EE57,1EE59-1EE59,1EE5B-1EE5B,1EE5D-1EE5D,1E" ++
    "E5F-1EE5F,1EE61-1EE62,1EE64-1EE64,1EE67-1EE6A,1EE6C-1EE72,1EE74-1EE77,1EE79-1EE7C,1EE7E-1EE7" ++
    "E,1EE80-1EE89,1EE8B-1EE9B,1EEA1-1EEA3,1EEA5-1EEA9,1EEAB-1EEBB;OUpper,Other_Uppercase:2160-21" ++
    "6F,24B6-24CF,1F130-1F149,1F150-1F169,1F170-1F189;Pat_Syn,Pattern_Syntax:21-2F,3A-40,5B-5E,60" ++
    "-60,7B-7E,A1-A7,A9-A9,AB-AC,AE-AE,B0-B1,B6-B6,BB-BB,BF-BF,D7-D7,F7-F7,2010-2027,2030-203E,20" ++
    "41-2053,2055-205E,2190-245F,2500-2775,2794-2BFF,2E00-2E7F,3001-3003,3008-3020,3030-3030,FD3E" ++
    "-FD3F,FE45-FE46;Pat_WS,Pattern_White_Space:9-D,20-20,85-85,200E-200F,2028-2029;PCM,Prepended" ++
    "_Concatenation_Mark:600-605,6DD-6DD,70F-70F,890-891,8E2-8E2,110BD-110BD,110CD-110CD;QMark,Qu" ++
    "otation_Mark:22-22,27-27,AB-AB,BB-BB,2018-201F,2039-203A,2E42-2E42,300C-300F,301D-301F,FE41-" ++
    "FE44,FF02-FF02,FF07-FF07,FF62-FF63;Radical:2E80-2E99,2E9B-2EF3,2F00-2FD5;RI,Regional_Indicat" ++
    "or:1F1E6-1F1FF;STerm,Sentence_Terminal:21-21,2E-2E,3F-3F,589-589,61D-61F,6D4-6D4,700-702,7F9" ++
    "-7F9,837-837,839-839,83D-83E,964-965,104A-104B,1362-1362,1367-1368,166E-166E,1735-1736,17D4-" ++
    "17D5,1803-1803,1809-1809,1944-1945,1AA8-1AAB,1B4E-1B4F,1B5A-1B5B,1B5E-1B5F,1B7D-1B7F,1C3B-1C" ++
    "3C,1C7E-1C7F,2024-2024,203C-203D,2047-2049,2CF9-2CFB,2E2E-2E2E,2E3C-2E3C,2E53-2E54,3002-3002" ++
    ",A4FF-A4FF,A60E-A60F,A6F3-A6F3,A6F7-A6F7,A876-A877,A8CE-A8CF,A92F-A92F,A9C8-A9C9,AA5D-AA5F,A" ++
    "AF0-AAF1,ABEB-ABEB,FE12-FE12,FE15-FE16,FE52-FE52,FE56-FE57,FF01-FF01,FF0E-FF0E,FF1F-FF1F,FF6" ++
    "1-FF61,10A56-10A57,10F55-10F59,10F86-10F89,11047-11048,110BE-110C1,11141-11143,111C5-111C6,1" ++
    "11CD-111CD,111DE-111DF,11238-11239,1123B-1123C,112A9-112A9,113D4-113D5,1144B-1144C,115C2-115" ++
    "C3,115C9-115D7,11641-11642,1173C-1173E,11944-11944,11946-11946,11A42-11A43,11A9B-11A9C,11C41" ++
    "-11C42,11EF7-11EF8,11F43-11F44,16A6E-16A6F,16AF5-16AF5,16B37-16B38,16B44-16B44,16D6E-16D6F,1" ++
    "6E98-16E98,1BC9F-1BC9F,1DA88-1DA88;SD,Soft_Dotted:69-6A,12F-12F,249-249,268-268,29D-29D,2B2-" ++
    "2B2,3F3-3F3,456-456,458-458,1D62-1D62,1D96-1D96,1DA4-1DA4,1DA8-1DA8,1E2D-1E2D,1ECB-1ECB,2071" ++
    "-2071,2148-2149,2C7C-2C7C,1D422-1D423,1D456-1D457,1D48A-1D48B,1D4BE-1D4BF,1D4F2-1D4F3,1D526-" ++
    "1D527,1D55A-1D55B,1D58E-1D58F,1D5C2-1D5C3,1D5F6-1D5F7,1D62A-1D62B,1D65E-1D65F,1D692-1D693,1D" ++
    "F1A-1DF1A,1E04C-1E04D,1E068-1E068;Term,Terminal_Punctuation:21-21,2C-2C,2E-2E,3A-3B,3F-3F,37" ++
    "E-37E,387-387,589-589,5C3-5C3,60C-60C,61B-61B,61D-61F,6D4-6D4,700-70A,70C-70C,7F8-7F9,830-83" ++
    "5,837-83E,85E-85E,964-965,E5A-E5B,F08-F08,F0D-F12,104A-104B,1361-1368,166E-166E,16EB-16ED,17" ++
    "35-1736,17D4-17D6,17DA-17DA,1802-1805,1808-1809,1944-1945,1AA8-1AAB,1B4E-1B4F,1B5A-1B5B,1B5D" ++
    "-1B5F,1B7D-1B7F,1C3B-1C3F,1C7E-1C7F,2024-2024,203C-203D,2047-2049,2CF9-2CFB,2E2E-2E2E,2E3C-2" ++
    "E3C,2E41-2E41,2E4C-2E4C,2E4E-2E4F,2E53-2E54,3001-3002,A4FE-A4FF,A60D-A60F,A6F3-A6F7,A876-A87" ++
    "7,A8CE-A8CF,A92F-A92F,A9C7-A9C9,AA5D-AA5F,AADF-AADF,AAF0-AAF1,ABEB-ABEB,FE12-FE12,FE15-FE16," ++
    "FE50-FE52,FE54-FE57,FF01-FF01,FF0C-FF0C,FF0E-FF0E,FF1A-FF1B,FF1F-FF1F,FF61-FF61,FF64-FF64,10" ++
    "39F-1039F,103D0-103D0,10857-10857,1091F-1091F,10A56-10A57,10AF0-10AF5,10B3A-10B3F,10B99-10B9" ++
    "C,10F55-10F59,10F86-10F89,11047-1104D,110BE-110C1,11141-11143,111C5-111C6,111CD-111CD,111DE-" ++
    "111DF,11238-1123C,112A9-112A9,113D4-113D5,1144B-1144D,1145A-1145B,115C2-115C5,115C9-115D7,11" ++
    "641-11642,1173C-1173E,11944-11944,11946-11946,11A42-11A43,11A9B-11A9C,11AA1-11AA2,11C41-11C4" ++
    "3,11C71-11C71,11EF7-11EF8,11F43-11F44,12470-12474,16A6E-16A6F,16AF5-16AF5,16B37-16B39,16B44-" ++
    "16B44,16D6E-16D6F,16E97-16E98,1BC9F-1BC9F,1DA87-1DA8A;UIdeo,Unified_Ideograph:3400-4DBF,4E00" ++
    "-9FFF,FA0E-FA0F,FA11-FA11,FA13-FA14,FA1F-FA1F,FA21-FA21,FA23-FA24,FA27-FA29,20000-2A6DF,2A70" ++
    "0-2B739,2B740-2B81D,2B820-2CEA1,2CEB0-2EBE0,2EBF0-2EE5D,30000-3134A,31350-323AF;Upper,Upperc" ++
    "ase:41-5A,C0-D6,D8-DE,100-100,102-102,104-104,106-106,108-108,10A-10A,10C-10C,10E-10E,110-11" ++
    "0,112-112,114-114,116-116,118-118,11A-11A,11C-11C,11E-11E,120-120,122-122,124-124,126-126,12" ++
    "8-128,12A-12A,12C-12C,12E-12E,130-130,132-132,134-134,136-136,139-139,13B-13B,13D-13D,13F-13" ++
    "F,141-141,143-143,145-145,147-147,14A-14A,14C-14C,14E-14E,150-150,152-152,154-154,156-156,15" ++
    "8-158,15A-15A,15C-15C,15E-15E,160-160,162-162,164-164,166-166,168-168,16A-16A,16C-16C,16E-16" ++
    "E,170-170,172-172,174-174,176-176,178-179,17B-17B,17D-17D,181-182,184-184,186-187,189-18B,18" ++
    "E-191,193-194,196-198,19C-19D,19F-1A0,1A2-1A2,1A4-1A4,1A6-1A7,1A9-1A9,1AC-1AC,1AE-1AF,1B1-1B" ++
    "3,1B5-1B5,1B7-1B8,1BC-1BC,1C4-1C4,1C7-1C7,1CA-1CA,1CD-1CD,1CF-1CF,1D1-1D1,1D3-1D3,1D5-1D5,1D" ++
    "7-1D7,1D9-1D9,1DB-1DB,1DE-1DE,1E0-1E0,1E2-1E2,1E4-1E4,1E6-1E6,1E8-1E8,1EA-1EA,1EC-1EC,1EE-1E" ++
    "E,1F1-1F1,1F4-1F4,1F6-1F8,1FA-1FA,1FC-1FC,1FE-1FE,200-200,202-202,204-204,206-206,208-208,20" ++
    "A-20A,20C-20C,20E-20E,210-210,212-212,214-214,216-216,218-218,21A-21A,21C-21C,21E-21E,220-22" ++
    "0,222-222,224-224,226-226,228-228,22A-22A,22C-22C,22E-22E,230-230,232-232,23A-23B,23D-23E,24" ++
    "1-241,243-246,248-248,24A-24A,24C-24C,24E-24E,370-370,372-372,376-376,37F-37F,386-386,388-38" ++
    "A,38C-38C,38E-38F,391-3A1,3A3-3AB,3CF-3CF,3D2-3D4,3D8-3D8,3DA-3DA,3DC-3DC,3DE-3DE,3E0-3E0,3E" ++
    "2-3E2,3E4-3E4,3E6-3E6,3E8-3E8,3EA-3EA,3EC-3EC,3EE-3EE,3F4-3F4,3F7-3F7,3F9-3FA,3FD-42F,460-46" ++
    "0,462-462,464-464,466-466,468-468,46A-46A,46C-46C,46E-46E,470-470,472-472,474-474,476-476,47" ++
    "8-478,47A-47A,47C-47C,47E-47E,480-480,48A-48A,48C-48C,48E-48E,490-490,492-492,494-494,496-49" ++
    "6,498-498,49A-49A,49C-49C,49E-49E,4A0-4A0,4A2-4A2,4A4-4A4,4A6-4A6,4A8-4A8,4AA-4AA,4AC-4AC,4A" ++
    "E-4AE,4B0-4B0,4B2-4B2,4B4-4B4,4B6-4B6,4B8-4B8,4BA-4BA,4BC-4BC,4BE-4BE,4C0-4C1,4C3-4C3,4C5-4C" ++
    "5,4C7-4C7,4C9-4C9,4CB-4CB,4CD-4CD,4D0-4D0,4D2-4D2,4D4-4D4,4D6-4D6,4D8-4D8,4DA-4DA,4DC-4DC,4D" ++
    "E-4DE,4E0-4E0,4E2-4E2,4E4-4E4,4E6-4E6,4E8-4E8,4EA-4EA,4EC-4EC,4EE-4EE,4F0-4F0,4F2-4F2,4F4-4F" ++
    "4,4F6-4F6,4F8-4F8,4FA-4FA,4FC-4FC,4FE-4FE,500-500,502-502,504-504,506-506,508-508,50A-50A,50" ++
    "C-50C,50E-50E,510-510,512-512,514-514,516-516,518-518,51A-51A,51C-51C,51E-51E,520-520,522-52" ++
    "2,524-524,526-526,528-528,52A-52A,52C-52C,52E-52E,531-556,10A0-10C5,10C7-10C7,10CD-10CD,13A0" ++
    "-13F5,1C89-1C89,1C90-1CBA,1CBD-1CBF,1E00-1E00,1E02-1E02,1E04-1E04,1E06-1E06,1E08-1E08,1E0A-1" ++
    "E0A,1E0C-1E0C,1E0E-1E0E,1E10-1E10,1E12-1E12,1E14-1E14,1E16-1E16,1E18-1E18,1E1A-1E1A,1E1C-1E1" ++
    "C,1E1E-1E1E,1E20-1E20,1E22-1E22,1E24-1E24,1E26-1E26,1E28-1E28,1E2A-1E2A,1E2C-1E2C,1E2E-1E2E," ++
    "1E30-1E30,1E32-1E32,1E34-1E34,1E36-1E36,1E38-1E38,1E3A-1E3A,1E3C-1E3C,1E3E-1E3E,1E40-1E40,1E" ++
    "42-1E42,1E44-1E44,1E46-1E46,1E48-1E48,1E4A-1E4A,1E4C-1E4C,1E4E-1E4E,1E50-1E50,1E52-1E52,1E54" ++
    "-1E54,1E56-1E56,1E58-1E58,1E5A-1E5A,1E5C-1E5C,1E5E-1E5E,1E60-1E60,1E62-1E62,1E64-1E64,1E66-1" ++
    "E66,1E68-1E68,1E6A-1E6A,1E6C-1E6C,1E6E-1E6E,1E70-1E70,1E72-1E72,1E74-1E74,1E76-1E76,1E78-1E7" ++
    "8,1E7A-1E7A,1E7C-1E7C,1E7E-1E7E,1E80-1E80,1E82-1E82,1E84-1E84,1E86-1E86,1E88-1E88,1E8A-1E8A," ++
    "1E8C-1E8C,1E8E-1E8E,1E90-1E90,1E92-1E92,1E94-1E94,1E9E-1E9E,1EA0-1EA0,1EA2-1EA2,1EA4-1EA4,1E" ++
    "A6-1EA6,1EA8-1EA8,1EAA-1EAA,1EAC-1EAC,1EAE-1EAE,1EB0-1EB0,1EB2-1EB2,1EB4-1EB4,1EB6-1EB6,1EB8" ++
    "-1EB8,1EBA-1EBA,1EBC-1EBC,1EBE-1EBE,1EC0-1EC0,1EC2-1EC2,1EC4-1EC4,1EC6-1EC6,1EC8-1EC8,1ECA-1" ++
    "ECA,1ECC-1ECC,1ECE-1ECE,1ED0-1ED0,1ED2-1ED2,1ED4-1ED4,1ED6-1ED6,1ED8-1ED8,1EDA-1EDA,1EDC-1ED" ++
    "C,1EDE-1EDE,1EE0-1EE0,1EE2-1EE2,1EE4-1EE4,1EE6-1EE6,1EE8-1EE8,1EEA-1EEA,1EEC-1EEC,1EEE-1EEE," ++
    "1EF0-1EF0,1EF2-1EF2,1EF4-1EF4,1EF6-1EF6,1EF8-1EF8,1EFA-1EFA,1EFC-1EFC,1EFE-1EFE,1F08-1F0F,1F" ++
    "18-1F1D,1F28-1F2F,1F38-1F3F,1F48-1F4D,1F59-1F59,1F5B-1F5B,1F5D-1F5D,1F5F-1F5F,1F68-1F6F,1FB8" ++
    "-1FBB,1FC8-1FCB,1FD8-1FDB,1FE8-1FEC,1FF8-1FFB,2102-2102,2107-2107,210B-210D,2110-2112,2115-2" ++
    "115,2119-211D,2124-2124,2126-2126,2128-2128,212A-212D,2130-2133,213E-213F,2145-2145,2160-216" ++
    "F,2183-2183,24B6-24CF,2C00-2C2F,2C60-2C60,2C62-2C64,2C67-2C67,2C69-2C69,2C6B-2C6B,2C6D-2C70," ++
    "2C72-2C72,2C75-2C75,2C7E-2C80,2C82-2C82,2C84-2C84,2C86-2C86,2C88-2C88,2C8A-2C8A,2C8C-2C8C,2C" ++
    "8E-2C8E,2C90-2C90,2C92-2C92,2C94-2C94,2C96-2C96,2C98-2C98,2C9A-2C9A,2C9C-2C9C,2C9E-2C9E,2CA0" ++
    "-2CA0,2CA2-2CA2,2CA4-2CA4,2CA6-2CA6,2CA8-2CA8,2CAA-2CAA,2CAC-2CAC,2CAE-2CAE,2CB0-2CB0,2CB2-2" ++
    "CB2,2CB4-2CB4,2CB6-2CB6,2CB8-2CB8,2CBA-2CBA,2CBC-2CBC,2CBE-2CBE,2CC0-2CC0,2CC2-2CC2,2CC4-2CC" ++
    "4,2CC6-2CC6,2CC8-2CC8,2CCA-2CCA,2CCC-2CCC,2CCE-2CCE,2CD0-2CD0,2CD2-2CD2,2CD4-2CD4,2CD6-2CD6," ++
    "2CD8-2CD8,2CDA-2CDA,2CDC-2CDC,2CDE-2CDE,2CE0-2CE0,2CE2-2CE2,2CEB-2CEB,2CED-2CED,2CF2-2CF2,A6" ++
    "40-A640,A642-A642,A644-A644,A646-A646,A648-A648,A64A-A64A,A64C-A64C,A64E-A64E,A650-A650,A652" ++
    "-A652,A654-A654,A656-A656,A658-A658,A65A-A65A,A65C-A65C,A65E-A65E,A660-A660,A662-A662,A664-A" ++
    "664,A666-A666,A668-A668,A66A-A66A,A66C-A66C,A680-A680,A682-A682,A684-A684,A686-A686,A688-A68" ++
    "8,A68A-A68A,A68C-A68C,A68E-A68E,A690-A690,A692-A692,A694-A694,A696-A696,A698-A698,A69A-A69A," ++
    "A722-A722,A724-A724,A726-A726,A728-A728,A72A-A72A,A72C-A72C,A72E-A72E,A732-A732,A734-A734,A7" ++
    "36-A736,A738-A738,A73A-A73A,A73C-A73C,A73E-A73E,A740-A740,A742-A742,A744-A744,A746-A746,A748" ++
    "-A748,A74A-A74A,A74C-A74C,A74E-A74E,A750-A750,A752-A752,A754-A754,A756-A756,A758-A758,A75A-A" ++
    "75A,A75C-A75C,A75E-A75E,A760-A760,A762-A762,A764-A764,A766-A766,A768-A768,A76A-A76A,A76C-A76" ++
    "C,A76E-A76E,A779-A779,A77B-A77B,A77D-A77E,A780-A780,A782-A782,A784-A784,A786-A786,A78B-A78B," ++
    "A78D-A78D,A790-A790,A792-A792,A796-A796,A798-A798,A79A-A79A,A79C-A79C,A79E-A79E,A7A0-A7A0,A7" ++
    "A2-A7A2,A7A4-A7A4,A7A6-A7A6,A7A8-A7A8,A7AA-A7AE,A7B0-A7B4,A7B6-A7B6,A7B8-A7B8,A7BA-A7BA,A7BC" ++
    "-A7BC,A7BE-A7BE,A7C0-A7C0,A7C2-A7C2,A7C4-A7C7,A7C9-A7C9,A7CB-A7CC,A7D0-A7D0,A7D6-A7D6,A7D8-A" ++
    "7D8,A7DA-A7DA,A7DC-A7DC,A7F5-A7F5,FF21-FF3A,10400-10427,104B0-104D3,10570-1057A,1057C-1058A," ++
    "1058C-10592,10594-10595,10C80-10CB2,10D50-10D65,118A0-118BF,16E40-16E5F,1D400-1D419,1D434-1D" ++
    "44D,1D468-1D481,1D49C-1D49C,1D49E-1D49F,1D4A2-1D4A2,1D4A5-1D4A6,1D4A9-1D4AC,1D4AE-1D4B5,1D4D" ++
    "0-1D4E9,1D504-1D505,1D507-1D50A,1D50D-1D514,1D516-1D51C,1D538-1D539,1D53B-1D53E,1D540-1D544," ++
    "1D546-1D546,1D54A-1D550,1D56C-1D585,1D5A0-1D5B9,1D5D4-1D5ED,1D608-1D621,1D63C-1D655,1D670-1D" ++
    "689,1D6A8-1D6C0,1D6E2-1D6FA,1D71C-1D734,1D756-1D76E,1D790-1D7A8,1D7CA-1D7CA,1E900-1E921,1F13" ++
    "0-1F149,1F150-1F169,1F170-1F189;VS,Variation_Selector:180B-180D,180F-180F,FE00-FE0F,E0100-E0" ++
    "1EF;WSpace,White_Space,Space:9-D,20-20,85-85,A0-A0,1680-1680,2000-200A,2028-2029,202F-202F,2" ++
    "05F-205F,3000-3000;XIDC,XID_Continue:30-39,41-5A,5F-5F,61-7A,AA-AA,B5-B5,B7-B7,BA-BA,C0-D6,D" ++
    "8-F6,F8-2C1,2C6-2D1,2E0-2E4,2EC-2EC,2EE-2EE,300-374,376-377,37B-37D,37F-37F,386-38A,38C-38C," ++
    "38E-3A1,3A3-3F5,3F7-481,483-487,48A-52F,531-556,559-559,560-588,591-5BD,5BF-5BF,5C1-5C2,5C4-" ++
    "5C5,5C7-5C7,5D0-5EA,5EF-5F2,610-61A,620-669,66E-6D3,6D5-6DC,6DF-6E8,6EA-6FC,6FF-6FF,710-74A," ++
    "74D-7B1,7C0-7F5,7FA-7FA,7FD-7FD,800-82D,840-85B,860-86A,870-887,889-88E,897-8E1,8E3-963,966-" ++
    "96F,971-983,985-98C,98F-990,993-9A8,9AA-9B0,9B2-9B2,9B6-9B9,9BC-9C4,9C7-9C8,9CB-9CE,9D7-9D7," ++
    "9DC-9DD,9DF-9E3,9E6-9F1,9FC-9FC,9FE-9FE,A01-A03,A05-A0A,A0F-A10,A13-A28,A2A-A30,A32-A33,A35-" ++
    "A36,A38-A39,A3C-A3C,A3E-A42,A47-A48,A4B-A4D,A51-A51,A59-A5C,A5E-A5E,A66-A75,A81-A83,A85-A8D," ++
    "A8F-A91,A93-AA8,AAA-AB0,AB2-AB3,AB5-AB9,ABC-AC5,AC7-AC9,ACB-ACD,AD0-AD0,AE0-AE3,AE6-AEF,AF9-" ++
    "AFF,B01-B03,B05-B0C,B0F-B10,B13-B28,B2A-B30,B32-B33,B35-B39,B3C-B44,B47-B48,B4B-B4D,B55-B57," ++
    "B5C-B5D,B5F-B63,B66-B6F,B71-B71,B82-B83,B85-B8A,B8E-B90,B92-B95,B99-B9A,B9C-B9C,B9E-B9F,BA3-" ++
    "BA4,BA8-BAA,BAE-BB9,BBE-BC2,BC6-BC8,BCA-BCD,BD0-BD0,BD7-BD7,BE6-BEF,C00-C0C,C0E-C10,C12-C28," ++
    "C2A-C39,C3C-C44,C46-C48,C4A-C4D,C55-C56,C58-C5A,C5D-C5D,C60-C63,C66-C6F,C80-C83,C85-C8C,C8E-" ++
    "C90,C92-CA8,CAA-CB3,CB5-CB9,CBC-CC4,CC6-CC8,CCA-CCD,CD5-CD6,CDD-CDE,CE0-CE3,CE6-CEF,CF1-CF3," ++
    "D00-D0C,D0E-D10,D12-D44,D46-D48,D4A-D4E,D54-D57,D5F-D63,D66-D6F,D7A-D7F,D81-D83,D85-D96,D9A-" ++
    "DB1,DB3-DBB,DBD-DBD,DC0-DC6,DCA-DCA,DCF-DD4,DD6-DD6,DD8-DDF,DE6-DEF,DF2-DF3,E01-E3A,E40-E4E," ++
    "E50-E59,E81-E82,E84-E84,E86-E8A,E8C-EA3,EA5-EA5,EA7-EBD,EC0-EC4,EC6-EC6,EC8-ECE,ED0-ED9,EDC-" ++
    "EDF,F00-F00,F18-F19,F20-F29,F35-F35,F37-F37,F39-F39,F3E-F47,F49-F6C,F71-F84,F86-F97,F99-FBC," ++
    "FC6-FC6,1000-1049,1050-109D,10A0-10C5,10C7-10C7,10CD-10CD,10D0-10FA,10FC-1248,124A-124D,1250" ++
    "-1256,1258-1258,125A-125D,1260-1288,128A-128D,1290-12B0,12B2-12B5,12B8-12BE,12C0-12C0,12C2-1" ++
    "2C5,12C8-12D6,12D8-1310,1312-1315,1318-135A,135D-135F,1369-1371,1380-138F,13A0-13F5,13F8-13F" ++
    "D,1401-166C,166F-167F,1681-169A,16A0-16EA,16EE-16F8,1700-1715,171F-1734,1740-1753,1760-176C," ++
    "176E-1770,1772-1773,1780-17D3,17D7-17D7,17DC-17DD,17E0-17E9,180B-180D,180F-1819,1820-1878,18" ++
    "80-18AA,18B0-18F5,1900-191E,1920-192B,1930-193B,1946-196D,1970-1974,1980-19AB,19B0-19C9,19D0" ++
    "-19DA,1A00-1A1B,1A20-1A5E,1A60-1A7C,1A7F-1A89,1A90-1A99,1AA7-1AA7,1AB0-1ABD,1ABF-1ACE,1B00-1" ++
    "B4C,1B50-1B59,1B6B-1B73,1B80-1BF3,1C00-1C37,1C40-1C49,1C4D-1C7D,1C80-1C8A,1C90-1CBA,1CBD-1CB" ++
    "F,1CD0-1CD2,1CD4-1CFA,1D00-1F15,1F18-1F1D,1F20-1F45,1F48-1F4D,1F50-1F57,1F59-1F59,1F5B-1F5B," ++
    "1F5D-1F5D,1F5F-1F7D,1F80-1FB4,1FB6-1FBC,1FBE-1FBE,1FC2-1FC4,1FC6-1FCC,1FD0-1FD3,1FD6-1FDB,1F" ++
    "E0-1FEC,1FF2-1FF4,1FF6-1FFC,200C-200D,203F-2040,2054-2054,2071-2071,207F-207F,2090-209C,20D0" ++
    "-20DC,20E1-20E1,20E5-20F0,2102-2102,2107-2107,210A-2113,2115-2115,2118-211D,2124-2124,2126-2" ++
    "126,2128-2128,212A-2139,213C-213F,2145-2149,214E-214E,2160-2188,2C00-2CE4,2CEB-2CF3,2D00-2D2" ++
    "5,2D27-2D27,2D2D-2D2D,2D30-2D67,2D6F-2D6F,2D7F-2D96,2DA0-2DA6,2DA8-2DAE,2DB0-2DB6,2DB8-2DBE," ++
    "2DC0-2DC6,2DC8-2DCE,2DD0-2DD6,2DD8-2DDE,2DE0-2DFF,3005-3007,3021-302F,3031-3035,3038-303C,30" ++
    "41-3096,3099-309A,309D-309F,30A1-30FF,3105-312F,3131-318E,31A0-31BF,31F0-31FF,3400-4DBF,4E00" ++
    "-A48C,A4D0-A4FD,A500-A60C,A610-A62B,A640-A66F,A674-A67D,A67F-A6F1,A717-A71F,A722-A788,A78B-A" ++
    "7CD,A7D0-A7D1,A7D3-A7D3,A7D5-A7DC,A7F2-A827,A82C-A82C,A840-A873,A880-A8C5,A8D0-A8D9,A8E0-A8F" ++
    "7,A8FB-A8FB,A8FD-A92D,A930-A953,A960-A97C,A980-A9C0,A9CF-A9D9,A9E0-A9FE,AA00-AA36,AA40-AA4D," ++
    "AA50-AA59,AA60-AA76,AA7A-AAC2,AADB-AADD,AAE0-AAEF,AAF2-AAF6,AB01-AB06,AB09-AB0E,AB11-AB16,AB" ++
    "20-AB26,AB28-AB2E,AB30-AB5A,AB5C-AB69,AB70-ABEA,ABEC-ABED,ABF0-ABF9,AC00-D7A3,D7B0-D7C6,D7CB" ++
    "-D7FB,F900-FA6D,FA70-FAD9,FB00-FB06,FB13-FB17,FB1D-FB28,FB2A-FB36,FB38-FB3C,FB3E-FB3E,FB40-F" ++
    "B41,FB43-FB44,FB46-FBB1,FBD3-FC5D,FC64-FD3D,FD50-FD8F,FD92-FDC7,FDF0-FDF9,FE00-FE0F,FE20-FE2" ++
    "F,FE33-FE34,FE4D-FE4F,FE71-FE71,FE73-FE73,FE77-FE77,FE79-FE79,FE7B-FE7B,FE7D-FE7D,FE7F-FEFC," ++
    "FF10-FF19,FF21-FF3A,FF3F-FF3F,FF41-FF5A,FF65-FFBE,FFC2-FFC7,FFCA-FFCF,FFD2-FFD7,FFDA-FFDC,10" ++
    "000-1000B,1000D-10026,10028-1003A,1003C-1003D,1003F-1004D,10050-1005D,10080-100FA,10140-1017" ++
    "4,101FD-101FD,10280-1029C,102A0-102D0,102E0-102E0,10300-1031F,1032D-1034A,10350-1037A,10380-" ++
    "1039D,103A0-103C3,103C8-103CF,103D1-103D5,10400-1049D,104A0-104A9,104B0-104D3,104D8-104FB,10" ++
    "500-10527,10530-10563,10570-1057A,1057C-1058A,1058C-10592,10594-10595,10597-105A1,105A3-105B" ++
    "1,105B3-105B9,105BB-105BC,105C0-105F3,10600-10736,10740-10755,10760-10767,10780-10785,10787-" ++
    "107B0,107B2-107BA,10800-10805,10808-10808,1080A-10835,10837-10838,1083C-1083C,1083F-10855,10" ++
    "860-10876,10880-1089E,108E0-108F2,108F4-108F5,10900-10915,10920-10939,10980-109B7,109BE-109B" ++
    "F,10A00-10A03,10A05-10A06,10A0C-10A13,10A15-10A17,10A19-10A35,10A38-10A3A,10A3F-10A3F,10A60-" ++
    "10A7C,10A80-10A9C,10AC0-10AC7,10AC9-10AE6,10B00-10B35,10B40-10B55,10B60-10B72,10B80-10B91,10" ++
    "C00-10C48,10C80-10CB2,10CC0-10CF2,10D00-10D27,10D30-10D39,10D40-10D65,10D69-10D6D,10D6F-10D8" ++
    "5,10E80-10EA9,10EAB-10EAC,10EB0-10EB1,10EC2-10EC4,10EFC-10F1C,10F27-10F27,10F30-10F50,10F70-" ++
    "10F85,10FB0-10FC4,10FE0-10FF6,11000-11046,11066-11075,1107F-110BA,110C2-110C2,110D0-110E8,11" ++
    "0F0-110F9,11100-11134,11136-1113F,11144-11147,11150-11173,11176-11176,11180-111C4,111C9-111C" ++
    "C,111CE-111DA,111DC-111DC,11200-11211,11213-11237,1123E-11241,11280-11286,11288-11288,1128A-" ++
    "1128D,1128F-1129D,1129F-112A8,112B0-112EA,112F0-112F9,11300-11303,11305-1130C,1130F-11310,11" ++
    "313-11328,1132A-11330,11332-11333,11335-11339,1133B-11344,11347-11348,1134B-1134D,11350-1135" ++
    "0,11357-11357,1135D-11363,11366-1136C,11370-11374,11380-11389,1138B-1138B,1138E-1138E,11390-" ++
    "113B5,113B7-113C0,113C2-113C2,113C5-113C5,113C7-113CA,113CC-113D3,113E1-113E2,11400-1144A,11" ++
    "450-11459,1145E-11461,11480-114C5,114C7-114C7,114D0-114D9,11580-115B5,115B8-115C0,115D8-115D" ++
    "D,11600-11640,11644-11644,11650-11659,11680-116B8,116C0-116C9,116D0-116E3,11700-1171A,1171D-" ++
    "1172B,11730-11739,11740-11746,11800-1183A,118A0-118E9,118FF-11906,11909-11909,1190C-11913,11" ++
    "915-11916,11918-11935,11937-11938,1193B-11943,11950-11959,119A0-119A7,119AA-119D7,119DA-119E" ++
    "1,119E3-119E4,11A00-11A3E,11A47-11A47,11A50-11A99,11A9D-11A9D,11AB0-11AF8,11BC0-11BE0,11BF0-" ++
    "11BF9,11C00-11C08,11C0A-11C36,11C38-11C40,11C50-11C59,11C72-11C8F,11C92-11CA7,11CA9-11CB6,11" ++
    "D00-11D06,11D08-11D09,11D0B-11D36,11D3A-11D3A,11D3C-11D3D,11D3F-11D47,11D50-11D59,11D60-11D6" ++
    "5,11D67-11D68,11D6A-11D8E,11D90-11D91,11D93-11D98,11DA0-11DA9,11EE0-11EF6,11F00-11F10,11F12-" ++
    "11F3A,11F3E-11F42,11F50-11F5A,11FB0-11FB0,12000-12399,12400-1246E,12480-12543,12F90-12FF0,13" ++
    "000-1342F,13440-13455,13460-143FA,14400-14646,16100-16139,16800-16A38,16A40-16A5E,16A60-16A6" ++
    "9,16A70-16ABE,16AC0-16AC9,16AD0-16AED,16AF0-16AF4,16B00-16B36,16B40-16B43,16B50-16B59,16B63-" ++
    "16B77,16B7D-16B8F,16D40-16D6C,16D70-16D79,16E40-16E7F,16F00-16F4A,16F4F-16F87,16F8F-16F9F,16" ++
    "FE0-16FE1,16FE3-16FE4,16FF0-16FF1,17000-187F7,18800-18CD5,18CFF-18D08,1AFF0-1AFF3,1AFF5-1AFF" ++
    "B,1AFFD-1AFFE,1B000-1B122,1B132-1B132,1B150-1B152,1B155-1B155,1B164-1B167,1B170-1B2FB,1BC00-" ++
    "1BC6A,1BC70-1BC7C,1BC80-1BC88,1BC90-1BC99,1BC9D-1BC9E,1CCF0-1CCF9,1CF00-1CF2D,1CF30-1CF46,1D" ++
    "165-1D169,1D16D-1D172,1D17B-1D182,1D185-1D18B,1D1AA-1D1AD,1D242-1D244,1D400-1D454,1D456-1D49" ++
    "C,1D49E-1D49F,1D4A2-1D4A2,1D4A5-1D4A6,1D4A9-1D4AC,1D4AE-1D4B9,1D4BB-1D4BB,1D4BD-1D4C3,1D4C5-" ++
    "1D505,1D507-1D50A,1D50D-1D514,1D516-1D51C,1D51E-1D539,1D53B-1D53E,1D540-1D544,1D546-1D546,1D" ++
    "54A-1D550,1D552-1D6A5,1D6A8-1D6C0,1D6C2-1D6DA,1D6DC-1D6FA,1D6FC-1D714,1D716-1D734,1D736-1D74" ++
    "E,1D750-1D76E,1D770-1D788,1D78A-1D7A8,1D7AA-1D7C2,1D7C4-1D7CB,1D7CE-1D7FF,1DA00-1DA36,1DA3B-" ++
    "1DA6C,1DA75-1DA75,1DA84-1DA84,1DA9B-1DA9F,1DAA1-1DAAF,1DF00-1DF1E,1DF25-1DF2A,1E000-1E006,1E" ++
    "008-1E018,1E01B-1E021,1E023-1E024,1E026-1E02A,1E030-1E06D,1E08F-1E08F,1E100-1E12C,1E130-1E13" ++
    "D,1E140-1E149,1E14E-1E14E,1E290-1E2AE,1E2C0-1E2F9,1E4D0-1E4F9,1E5D0-1E5FA,1E7E0-1E7E6,1E7E8-" ++
    "1E7EB,1E7ED-1E7EE,1E7F0-1E7FE,1E800-1E8C4,1E8D0-1E8D6,1E900-1E94B,1E950-1E959,1EE00-1EE03,1E" ++
    "E05-1EE1F,1EE21-1EE22,1EE24-1EE24,1EE27-1EE27,1EE29-1EE32,1EE34-1EE37,1EE39-1EE39,1EE3B-1EE3" ++
    "B,1EE42-1EE42,1EE47-1EE47,1EE49-1EE49,1EE4B-1EE4B,1EE4D-1EE4F,1EE51-1EE52,1EE54-1EE54,1EE57-" ++
    "1EE57,1EE59-1EE59,1EE5B-1EE5B,1EE5D-1EE5D,1EE5F-1EE5F,1EE61-1EE62,1EE64-1EE64,1EE67-1EE6A,1E" ++
    "E6C-1EE72,1EE74-1EE77,1EE79-1EE7C,1EE7E-1EE7E,1EE80-1EE89,1EE8B-1EE9B,1EEA1-1EEA3,1EEA5-1EEA" ++
    "9,1EEAB-1EEBB,1FBF0-1FBF9,20000-2A6DF,2A700-2B739,2B740-2B81D,2B820-2CEA1,2CEB0-2EBE0,2EBF0-" ++
    "2EE5D,2F800-2FA1D,30000-3134A,31350-323AF,E0100-E01EF;XIDS,XID_Start:41-5A,61-7A,AA-AA,B5-B5" ++
    ",BA-BA,C0-D6,D8-F6,F8-2C1,2C6-2D1,2E0-2E4,2EC-2EC,2EE-2EE,370-374,376-377,37B-37D,37F-37F,38" ++
    "6-386,388-38A,38C-38C,38E-3A1,3A3-3F5,3F7-481,48A-52F,531-556,559-559,560-588,5D0-5EA,5EF-5F" ++
    "2,620-64A,66E-66F,671-6D3,6D5-6D5,6E5-6E6,6EE-6EF,6FA-6FC,6FF-6FF,710-710,712-72F,74D-7A5,7B" ++
    "1-7B1,7CA-7EA,7F4-7F5,7FA-7FA,800-815,81A-81A,824-824,828-828,840-858,860-86A,870-887,889-88" ++
    "E,8A0-8C9,904-939,93D-93D,950-950,958-961,971-980,985-98C,98F-990,993-9A8,9AA-9B0,9B2-9B2,9B" ++
    "6-9B9,9BD-9BD,9CE-9CE,9DC-9DD,9DF-9E1,9F0-9F1,9FC-9FC,A05-A0A,A0F-A10,A13-A28,A2A-A30,A32-A3" ++
    "3,A35-A36,A38-A39,A59-A5C,A5E-A5E,A72-A74,A85-A8D,A8F-A91,A93-AA8,AAA-AB0,AB2-AB3,AB5-AB9,AB" ++
    "D-ABD,AD0-AD0,AE0-AE1,AF9-AF9,B05-B0C,B0F-B10,B13-B28,B2A-B30,B32-B33,B35-B39,B3D-B3D,B5C-B5" ++
    "D,B5F-B61,B71-B71,B83-B83,B85-B8A,B8E-B90,B92-B95,B99-B9A,B9C-B9C,B9E-B9F,BA3-BA4,BA8-BAA,BA" ++
    "E-BB9,BD0-BD0,C05-C0C,C0E-C10,C12-C28,C2A-C39,C3D-C3D,C58-C5A,C5D-C5D,C60-C61,C80-C80,C85-C8" ++
    "C,C8E-C90,C92-CA8,CAA-CB3,CB5-CB9,CBD-CBD,CDD-CDE,CE0-CE1,CF1-CF2,D04-D0C,D0E-D10,D12-D3A,D3" ++
    "D-D3D,D4E-D4E,D54-D56,D5F-D61,D7A-D7F,D85-D96,D9A-DB1,DB3-DBB,DBD-DBD,DC0-DC6,E01-E30,E32-E3" ++
    "2,E40-E46,E81-E82,E84-E84,E86-E8A,E8C-EA3,EA5-EA5,EA7-EB0,EB2-EB2,EBD-EBD,EC0-EC4,EC6-EC6,ED" ++
    "C-EDF,F00-F00,F40-F47,F49-F6C,F88-F8C,1000-102A,103F-103F,1050-1055,105A-105D,1061-1061,1065" ++
    "-1066,106E-1070,1075-1081,108E-108E,10A0-10C5,10C7-10C7,10CD-10CD,10D0-10FA,10FC-1248,124A-1" ++
    "24D,1250-1256,1258-1258,125A-125D,1260-1288,128A-128D,1290-12B0,12B2-12B5,12B8-12BE,12C0-12C" ++
    "0,12C2-12C5,12C8-12D6,12D8-1310,1312-1315,1318-135A,1380-138F,13A0-13F5,13F8-13FD,1401-166C," ++
    "166F-167F,1681-169A,16A0-16EA,16EE-16F8,1700-1711,171F-1731,1740-1751,1760-176C,176E-1770,17" ++
    "80-17B3,17D7-17D7,17DC-17DC,1820-1878,1880-18A8,18AA-18AA,18B0-18F5,1900-191E,1950-196D,1970" ++
    "-1974,1980-19AB,19B0-19C9,1A00-1A16,1A20-1A54,1AA7-1AA7,1B05-1B33,1B45-1B4C,1B83-1BA0,1BAE-1" ++
    "BAF,1BBA-1BE5,1C00-1C23,1C4D-1C4F,1C5A-1C7D,1C80-1C8A,1C90-1CBA,1CBD-1CBF,1CE9-1CEC,1CEE-1CF" ++
    "3,1CF5-1CF6,1CFA-1CFA,1D00-1DBF,1E00-1F15,1F18-1F1D,1F20-1F45,1F48-1F4D,1F50-1F57,1F59-1F59," ++
    "1F5B-1F5B,1F5D-1F5D,1F5F-1F7D,1F80-1FB4,1FB6-1FBC,1FBE-1FBE,1FC2-1FC4,1FC6-1FCC,1FD0-1FD3,1F" ++
    "D6-1FDB,1FE0-1FEC,1FF2-1FF4,1FF6-1FFC,2071-2071,207F-207F,2090-209C,2102-2102,2107-2107,210A" ++
    "-2113,2115-2115,2118-211D,2124-2124,2126-2126,2128-2128,212A-2139,213C-213F,2145-2149,214E-2" ++
    "14E,2160-2188,2C00-2CE4,2CEB-2CEE,2CF2-2CF3,2D00-2D25,2D27-2D27,2D2D-2D2D,2D30-2D67,2D6F-2D6" ++
    "F,2D80-2D96,2DA0-2DA6,2DA8-2DAE,2DB0-2DB6,2DB8-2DBE,2DC0-2DC6,2DC8-2DCE,2DD0-2DD6,2DD8-2DDE," ++
    "3005-3007,3021-3029,3031-3035,3038-303C,3041-3096,309D-309F,30A1-30FA,30FC-30FF,3105-312F,31" ++
    "31-318E,31A0-31BF,31F0-31FF,3400-4DBF,4E00-A48C,A4D0-A4FD,A500-A60C,A610-A61F,A62A-A62B,A640" ++
    "-A66E,A67F-A69D,A6A0-A6EF,A717-A71F,A722-A788,A78B-A7CD,A7D0-A7D1,A7D3-A7D3,A7D5-A7DC,A7F2-A" ++
    "801,A803-A805,A807-A80A,A80C-A822,A840-A873,A882-A8B3,A8F2-A8F7,A8FB-A8FB,A8FD-A8FE,A90A-A92" ++
    "5,A930-A946,A960-A97C,A984-A9B2,A9CF-A9CF,A9E0-A9E4,A9E6-A9EF,A9FA-A9FE,AA00-AA28,AA40-AA42," ++
    "AA44-AA4B,AA60-AA76,AA7A-AA7A,AA7E-AAAF,AAB1-AAB1,AAB5-AAB6,AAB9-AABD,AAC0-AAC0,AAC2-AAC2,AA" ++
    "DB-AADD,AAE0-AAEA,AAF2-AAF4,AB01-AB06,AB09-AB0E,AB11-AB16,AB20-AB26,AB28-AB2E,AB30-AB5A,AB5C" ++
    "-AB69,AB70-ABE2,AC00-D7A3,D7B0-D7C6,D7CB-D7FB,F900-FA6D,FA70-FAD9,FB00-FB06,FB13-FB17,FB1D-F" ++
    "B1D,FB1F-FB28,FB2A-FB36,FB38-FB3C,FB3E-FB3E,FB40-FB41,FB43-FB44,FB46-FBB1,FBD3-FC5D,FC64-FD3" ++
    "D,FD50-FD8F,FD92-FDC7,FDF0-FDF9,FE71-FE71,FE73-FE73,FE77-FE77,FE79-FE79,FE7B-FE7B,FE7D-FE7D," ++
    "FE7F-FEFC,FF21-FF3A,FF41-FF5A,FF66-FF9D,FFA0-FFBE,FFC2-FFC7,FFCA-FFCF,FFD2-FFD7,FFDA-FFDC,10" ++
    "000-1000B,1000D-10026,10028-1003A,1003C-1003D,1003F-1004D,10050-1005D,10080-100FA,10140-1017" ++
    "4,10280-1029C,102A0-102D0,10300-1031F,1032D-1034A,10350-10375,10380-1039D,103A0-103C3,103C8-" ++
    "103CF,103D1-103D5,10400-1049D,104B0-104D3,104D8-104FB,10500-10527,10530-10563,10570-1057A,10" ++
    "57C-1058A,1058C-10592,10594-10595,10597-105A1,105A3-105B1,105B3-105B9,105BB-105BC,105C0-105F" ++
    "3,10600-10736,10740-10755,10760-10767,10780-10785,10787-107B0,107B2-107BA,10800-10805,10808-" ++
    "10808,1080A-10835,10837-10838,1083C-1083C,1083F-10855,10860-10876,10880-1089E,108E0-108F2,10" ++
    "8F4-108F5,10900-10915,10920-10939,10980-109B7,109BE-109BF,10A00-10A00,10A10-10A13,10A15-10A1" ++
    "7,10A19-10A35,10A60-10A7C,10A80-10A9C,10AC0-10AC7,10AC9-10AE4,10B00-10B35,10B40-10B55,10B60-" ++
    "10B72,10B80-10B91,10C00-10C48,10C80-10CB2,10CC0-10CF2,10D00-10D23,10D4A-10D65,10D6F-10D85,10" ++
    "E80-10EA9,10EB0-10EB1,10EC2-10EC4,10F00-10F1C,10F27-10F27,10F30-10F45,10F70-10F81,10FB0-10FC" ++
    "4,10FE0-10FF6,11003-11037,11071-11072,11075-11075,11083-110AF,110D0-110E8,11103-11126,11144-" ++
    "11144,11147-11147,11150-11172,11176-11176,11183-111B2,111C1-111C4,111DA-111DA,111DC-111DC,11" ++
    "200-11211,11213-1122B,1123F-11240,11280-11286,11288-11288,1128A-1128D,1128F-1129D,1129F-112A" ++
    "8,112B0-112DE,11305-1130C,1130F-11310,11313-11328,1132A-11330,11332-11333,11335-11339,1133D-" ++
    "1133D,11350-11350,1135D-11361,11380-11389,1138B-1138B,1138E-1138E,11390-113B5,113B7-113B7,11" ++
    "3D1-113D1,113D3-113D3,11400-11434,11447-1144A,1145F-11461,11480-114AF,114C4-114C5,114C7-114C" ++
    "7,11580-115AE,115D8-115DB,11600-1162F,11644-11644,11680-116AA,116B8-116B8,11700-1171A,11740-" ++
    "11746,11800-1182B,118A0-118DF,118FF-11906,11909-11909,1190C-11913,11915-11916,11918-1192F,11" ++
    "93F-1193F,11941-11941,119A0-119A7,119AA-119D0,119E1-119E1,119E3-119E3,11A00-11A00,11A0B-11A3" ++
    "2,11A3A-11A3A,11A50-11A50,11A5C-11A89,11A9D-11A9D,11AB0-11AF8,11BC0-11BE0,11C00-11C08,11C0A-" ++
    "11C2E,11C40-11C40,11C72-11C8F,11D00-11D06,11D08-11D09,11D0B-11D30,11D46-11D46,11D60-11D65,11" ++
    "D67-11D68,11D6A-11D89,11D98-11D98,11EE0-11EF2,11F02-11F02,11F04-11F10,11F12-11F33,11FB0-11FB" ++
    "0,12000-12399,12400-1246E,12480-12543,12F90-12FF0,13000-1342F,13441-13446,13460-143FA,14400-" ++
    "14646,16100-1611D,16800-16A38,16A40-16A5E,16A70-16ABE,16AD0-16AED,16B00-16B2F,16B40-16B43,16" ++
    "B63-16B77,16B7D-16B8F,16D40-16D6C,16E40-16E7F,16F00-16F4A,16F50-16F50,16F93-16F9F,16FE0-16FE" ++
    "1,16FE3-16FE3,17000-187F7,18800-18CD5,18CFF-18D08,1AFF0-1AFF3,1AFF5-1AFFB,1AFFD-1AFFE,1B000-" ++
    "1B122,1B132-1B132,1B150-1B152,1B155-1B155,1B164-1B167,1B170-1B2FB,1BC00-1BC6A,1BC70-1BC7C,1B" ++
    "C80-1BC88,1BC90-1BC99,1D400-1D454,1D456-1D49C,1D49E-1D49F,1D4A2-1D4A2,1D4A5-1D4A6,1D4A9-1D4A" ++
    "C,1D4AE-1D4B9,1D4BB-1D4BB,1D4BD-1D4C3,1D4C5-1D505,1D507-1D50A,1D50D-1D514,1D516-1D51C,1D51E-" ++
    "1D539,1D53B-1D53E,1D540-1D544,1D546-1D546,1D54A-1D550,1D552-1D6A5,1D6A8-1D6C0,1D6C2-1D6DA,1D" ++
    "6DC-1D6FA,1D6FC-1D714,1D716-1D734,1D736-1D74E,1D750-1D76E,1D770-1D788,1D78A-1D7A8,1D7AA-1D7C" ++
    "2,1D7C4-1D7CB,1DF00-1DF1E,1DF25-1DF2A,1E030-1E06D,1E100-1E12C,1E137-1E13D,1E14E-1E14E,1E290-" ++
    "1E2AD,1E2C0-1E2EB,1E4D0-1E4EB,1E5D0-1E5ED,1E5F0-1E5F0,1E7E0-1E7E6,1E7E8-1E7EB,1E7ED-1E7EE,1E" ++
    "7F0-1E7FE,1E800-1E8C4,1E900-1E943,1E94B-1E94B,1EE00-1EE03,1EE05-1EE1F,1EE21-1EE22,1EE24-1EE2" ++
    "4,1EE27-1EE27,1EE29-1EE32,1EE34-1EE37,1EE39-1EE39,1EE3B-1EE3B,1EE42-1EE42,1EE47-1EE47,1EE49-" ++
    "1EE49,1EE4B-1EE4B,1EE4D-1EE4F,1EE51-1EE52,1EE54-1EE54,1EE57-1EE57,1EE59-1EE59,1EE5B-1EE5B,1E" ++
    "E5D-1EE5D,1EE5F-1EE5F,1EE61-1EE62,1EE64-1EE64,1EE67-1EE6A,1EE6C-1EE72,1EE74-1EE77,1EE79-1EE7" ++
    "C,1EE7E-1EE7E,1EE80-1EE89,1EE8B-1EE9B,1EEA1-1EEA3,1EEA5-1EEA9,1EEAB-1EEBB,20000-2A6DF,2A700-" ++
    "2B739,2B740-2B81D,2B820-2CEA1,2CEB0-2EBE0,2EBF0-2EE5D,2F800-2FA1D,30000-3134A,31350-323AF"
  )

end ManifestLint.Text
