import ApiTypings.Text.Ranges

/-!
# Punctuation, signs and digits

The classes of Unicode (version 14) for what is neither letter nor blank. The
blocks for punctuation belong to punctuation as a whole, and the blocks for
forms of presentation to the signs but for their letters.
-/

namespace ApiTypings.Text

/-- Punctuation, and all of the blocks for it. -/
def punctuation : Ranges := .parse <|
  "21-23 25-2A 2C-2F 3A-3B 3F-40 5B-5D 5F 7B 7D A1 A7 AB B6-B7 BB BF 37E 387 55A-55F " ++
  "589-58A 5BE 5C0 5C3 5C6 5F3-5F4 609-60A 60C-60D 61B 61D-61F 66A-66D 6D4 700-70D 7F7-7F9 " ++
  "830-83E 85E 964-965 970 9FD A76 AF0 C77 C84 DF4 E4F E5A-E5B F04-F12 F14 F3A-F3D F85 " ++
  "FD0-FD4 FD9-FDA 104A-104F 10FB 1360-1368 1400 166E 169B-169C 16EB-16ED 1735-1736 " ++
  "17D4-17D6 17D8-17DA 1800-180A 1944-1945 1A1E-1A1F 1AA0-1AA6 1AA8-1AAD 1B5A-1B60 " ++
  "1B7D-1B7E 1BFC-1BFF 1C3B-1C3F 1C7E-1C7F 1CC0-1CC7 1CD3 2000-206F 207D-207E 208D-208E " ++
  "2308-230B 2329-232A 2768-2775 27C5-27C6 27E6-27EF 2983-2998 29D8-29DB 29FC-29FD " ++
  "2CF9-2CFC 2CFE-2CFF 2D70 2E00-2E7F 3000-303F 30A0 30FB A4FE-A4FF A60D-A60F A673 A67E " ++
  "A6F2-A6F7 A874-A877 A8CE-A8CF A8F8-A8FA A8FC A92E-A92F A95F A9C1-A9CD A9DE-A9DF " ++
  "AA5C-AA5F AADE-AADF AAF0-AAF1 ABEB FD3E-FD3F FE10-FE19 FE30-FE52 FE54-FE61 FE63 FE68 " ++
  "FE6A-FE6B FF01-FF03 FF05-FF0A FF0C-FF0F FF1A-FF1B FF1F-FF20 FF3B-FF3D FF3F FF5B FF5D " ++
  "FF5F-FF65 10100-10102 1039F 103D0 1056F 10857 1091F 1093F 10A50-10A58 10A7F 10AF0-10AF6 " ++
  "10B39-10B3F 10B99-10B9C 10EAD 10F55-10F59 10F86-10F89 11047-1104D 110BB-110BC " ++
  "110BE-110C1 11140-11143 11174-11175 111C5-111C8 111CD 111DB 111DD-111DF 11238-1123D " ++
  "112A9 1144B-1144F 1145A-1145B 1145D 114C6 115C1-115D7 11641-11643 11660-1166C 116B9 " ++
  "1173C-1173E 1183B 11944-11946 119E2 11A3F-11A46 11A9A-11A9C 11A9E-11AA2 11C41-11C45 " ++
  "11C70-11C71 11EF7-11EF8 11FFF 12400-1247F 12FF1-12FF2 16A6E-16A6F 16AF5 16B37-16B3B " ++
  "16B44 16E97-16E9A 16FE0-16FFF 1BC9F 1DA87-1DA8B 1E95E-1E95F"

/-- Signs for amounts, relations and drawings, numbers, and forms of presentation. -/
def signs : Ranges := .parse <|
  "24 2B 30-39 3C-3E 5E 60 7C 7E A2-A6 A8-A9 AC AE-B4 B8-B9 BC-BE D7 F7 2C2-2C5 2D2-2DF " ++
  "2E5-2EB 2ED 2EF-2FF 375 384-385 3F6 482 58D-58F 606-608 60B 60E-60F 660-669 6DE 6E9 " ++
  "6F0-6F9 6FD-6FE 7C0-7C9 7F6 7FE-7FF 888 966-96F 9E6-9EF 9F2-9FB A66-A6F AE6-AEF AF1 " ++
  "B66-B70 B72-B77 BE6-BFA C66-C6F C78-C7F CE6-CEF D4F D58-D5E D66-D79 DE6-DEF E3F E50-E59 " ++
  "ED0-ED9 F01-F03 F13 F15-F17 F1A-F34 F36 F38 FBE-FC5 FC7-FCC FCE-FCF FD5-FD8 1040-1049 " ++
  "1090-1099 109E-109F 1369-137C 1390-1399 166D 16EE-16F0 17DB 17E0-17E9 17F0-17F9 " ++
  "1810-1819 1940 1946-194F 19D0-19DA 19DE-19FF 1A80-1A89 1A90-1A99 1B50-1B59 1B61-1B6A " ++
  "1B74-1B7C 1BB0-1BB9 1C40-1C49 1C50-1C59 1FBD 1FBF-1FC1 1FCD-1FCF 1FDD-1FDF 1FED-1FEF " ++
  "1FFD-1FFE 2044 2052 2070 2074-207C 2080-208C 20A0-20C0 2100-2101 2103-2106 2108-2109 " ++
  "2114 2116-2118 211E-2123 2125 2127 2129 212E 213A-213B 2140-2144 214A-214D 214F-2307 " ++
  "230C-2328 232B-2426 2440-244A 2460-2767 2776-27C4 27C7-27E5 27F0-2982 2999-29D7 " ++
  "29DC-29FB 29FE-2B73 2B76-2B95 2B97-2BFF 2CE5-2CEA 2CFD 2E50-2E51 2E80-2E99 2E9B-2EF3 " ++
  "2F00-2FD5 2FF0-2FFB 3004 3007 3012-3013 3020-3029 3036-303A 303E-303F 309B-309C " ++
  "3190-319F 31C0-31E3 3200-321E 3220-33FF 4DC0-4DFF A490-A4C6 A620-A629 A6E6-A6EF " ++
  "A700-A716 A720-A721 A789-A78A A828-A82B A830-A83F A8D0-A8D9 A900-A909 A9D0-A9D9 " ++
  "A9F0-A9F9 AA50-AA59 AA77-AA79 AB5B AB6A-AB6B ABF0-ABF9 FB00-FB1C FB1E FB29 FB37 FB3D " ++
  "FB3F FB42 FB45 FBB2-FBD2 FD3E-FD4F FD90-FD91 FDC8-FDEF FDFC-FDFF FE10-FE1F FE30-FE4F " ++
  "FE62 FE64-FE66 FE69 FE75 FEFD-FF65 FF70 FF9E-FF9F FFBF-FFC1 FFC8-FFC9 FFD0-FFD1 " ++
  "FFD8-FFD9 FFDD-FFEF FFFC-FFFD 10107-10133 10137-1018E 10190-1019C 101A0 101D0-101FC " ++
  "102E1-102FB 10320-10323 10341 1034A 103D1-103D5 104A0-104A9 10858-1085F 10877-1087F " ++
  "108A7-108AF 108FB-108FF 10916-1091B 109BC-109BD 109C0-109CF 109D2-109FF 10A40-10A48 " ++
  "10A7D-10A7E 10A9D-10A9F 10AC8 10AEB-10AEF 10B58-10B5F 10B78-10B7F 10BA9-10BAF " ++
  "10CFA-10CFF 10D30-10D39 10E60-10E7E 10F1D-10F26 10F51-10F54 10FC5-10FCB 11052-1106F " ++
  "110F0-110F9 11136-1113F 111D0-111D9 111E1-111F4 112F0-112F9 11450-11459 114D0-114D9 " ++
  "11650-11659 116C0-116C9 11730-1173B 1173F 118E0-118F2 11950-11959 11C50-11C6C " ++
  "11D50-11D59 11DA0-11DA9 11FC0-11FF1 12400-1246E 16A60-16A69 16AC0-16AC9 16B3C-16B3F " ++
  "16B45 16B50-16B59 16B5B-16B61 16E80-16E96 1BC9C 1CF50-1CFC3 1D000-1D0F5 1D100-1D126 " ++
  "1D129-1D164 1D16A-1D16C 1D183-1D184 1D18C-1D1A9 1D1AE-1D1EA 1D200-1D241 1D245 " ++
  "1D2E0-1D2F3 1D300-1D356 1D360-1D378 1D6C1 1D6DB 1D6FB 1D715 1D735 1D74F 1D76F 1D789 " ++
  "1D7A9 1D7C3 1D7CE-1D9FF 1DA37-1DA3A 1DA6D-1DA74 1DA76-1DA83 1DA85-1DA86 1E140-1E149 " ++
  "1E14F 1E2F0-1E2F9 1E2FF 1E8C7-1E8CF 1E950-1E959 1EC71-1ECB4 1ED01-1ED3D 1EEF0-1EEF1 " ++
  "1F000-1F02B 1F030-1F093 1F0A0-1F0AE 1F0B1-1F0BF 1F0C1-1F0CF 1F0D1-1F0F5 1F100-1F1AD " ++
  "1F1E6-1F202 1F210-1F23B 1F240-1F248 1F250-1F251 1F260-1F265 1F300-1F6D7 1F6DD-1F6EC " ++
  "1F6F0-1F6FC 1F700-1F773 1F780-1F7D8 1F7E0-1F7EB 1F7F0 1F800-1F80B 1F810-1F847 " ++
  "1F850-1F859 1F860-1F887 1F890-1F8AD 1F8B0-1F8B1 1F900-1FA53 1FA60-1FA6D 1FA70-1FA74 " ++
  "1FA78-1FA7C 1FA80-1FA86 1FA90-1FAAC 1FAB0-1FABA 1FAC0-1FAC5 1FAD0-1FAD9 1FAE0-1FAE7 " ++
  "1FAF0-1FAF6 1FB00-1FB92 1FB94-1FBCA 1FBF0-1FBF9"

/-- Digits, those in frames and at the height of exponents with them. -/
def digitRanges : Ranges := .parse <|
  "30-39 B2-B3 B9 660-669 6F0-6F9 7C0-7C9 966-96F 9E6-9EF A66-A6F AE6-AEF B66-B6F BE6-BEF " ++
  "C66-C6F CE6-CEF D66-D6F DE6-DEF E50-E59 ED0-ED9 F20-F29 1040-1049 1090-1099 1369-1371 " ++
  "17E0-17E9 1810-1819 1946-194F 19D0-19DA 1A80-1A89 1A90-1A99 1B50-1B59 1BB0-1BB9 " ++
  "1C40-1C49 1C50-1C59 2070 2074-2079 2080-2089 2460-2468 2474-247C 2488-2490 24EA " ++
  "24F5-24FD 24FF 2776-277E 2780-2788 278A-2792 A620-A629 A8D0-A8D9 A900-A909 A9D0-A9D9 " ++
  "A9F0-A9F9 AA50-AA59 ABF0-ABF9 FF10-FF19 104A0-104A9 10A40-10A43 10D30-10D39 10E60-10E68 " ++
  "11052-1105A 11066-1106F 110F0-110F9 11136-1113F 111D0-111D9 112F0-112F9 11450-11459 " ++
  "114D0-114D9 11650-11659 116C0-116C9 11730-11739 118E0-118E9 11950-11959 11C50-11C59 " ++
  "11D50-11D59 11DA0-11DA9 16A60-16A69 16AC0-16AC9 16B50-16B59 1D7CE-1D7FF 1E140-1E149 " ++
  "1E2F0-1E2F9 1E950-1E959 1F100-1F10A 1FBF0-1FBF9"

def isPunctuation (c : Char) : Bool := punctuation.contains c

def isSign (c : Char) : Bool := signs.contains c

/-- A single digit, in whatever form it is written. -/
def isDigitForm (c : Char) : Bool := digitRanges.contains c

end ApiTypings.Text
