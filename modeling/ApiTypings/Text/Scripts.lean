import ApiTypings.Text.Letters
import ApiTypings.Text.Ranges

/-!
# Letters by script

The letters of Latin script, those with an accent, and the characters of scripts
that are written without blanks between words; and for accented Latin letters the
letters they are made from. The classes go by the names that Unicode (version 14)
gives to characters.
-/

namespace ApiTypings.Text

def latinRanges : Ranges := .parse <|
  "41-5A 61-7A C0-D6 D8-F6 F8-2AF 1D00-1D25 1D62-1D65 1D6B-1D77 1D79-1D9A 1E00-1EFF 2071 " ++
  "207F 2090-209C 2184 2C2E 2C5E 2C60-2C7C 2C7E-2C7F A722-A76F A771-A787 A78B-A7CA " ++
  "A7D0-A7D1 A7D3 A7D5-A7D9 A7F5-A7F7 A7FA-A7FF AB30-AB5A AB60-AB64 AB66-AB68 FB00-FB06 " ++
  "FF21-FF3A FF41-FF5A 1DF00-1DF1E"

/-- Letters with one of the accents that most languages share: grave, acute, cedilla, diaeresis,
circumflex, tilde, macron or ring. -/
def accentRanges : Ranges := .parse <|
  "C0-C5 C7-CF D1-D6 D9-DD E0-E5 E7-EF F1-F6 F9-FD FF-101 106-109 112-113 11C-11D 122-125 " ++
  "128-12B 134-137 139-13C 143-146 14C-14D 154-157 15A-15F 162-163 168-16B 16E-16F 174-17A " ++
  "1D5-1DC 1DE-1DF 1E2-1E3 1F4-1F5 1F8-1FD 228-22D 232-233 3D3-3D4 400 40D 450 45D 4D2-4D3 " ++
  "4DA-4DF 4E2-4E7 4EA-4F1 4F4-4F5 4F8-4F9 1E08-1E09 1E10-1E1D 1E20-1E21 1E26-1E29 " ++
  "1E2C-1E31 1E3C-1E3F 1E4A-1E55 1E64-1E65 1E70-1E7D 1E80-1E85 1E8C-1E8D 1E90-1E91 " ++
  "1E97-1E99 1EA4-1EAD 1EBC-1EC7 1ED0-1ED9 1EF2-1EF3 1EF8-1EF9 1FB1 1FB9 1FD1 1FD9 1FE1 " ++
  "1FE9 10EB1"

/-- Letters of Chinese, Japanese, Korean and Thai. -/
def unspacedRanges : Ranges := .parse <|
  "E01-E30 E32-E33 E40-E46 1100-11FF 3041-3096 309D-309F 30A1-30FA 30FC-30FF 3131-318E " ++
  "31F0-31FF 3400-4DBF 4E00-9FFF A960-A97C AC00-D7A3 D7B0-D7C6 D7CB-D7FB F900-FA6D " ++
  "FA70-FAD9 FF66-FFBE FFC2-FFC7 FFCA-FFCF FFD2-FFD7 FFDA-FFDC 1AFF0-1AFF3 1AFF5-1AFFB " ++
  "1AFFD-1AFFE 1B000-1B001 1B11F-1B122 1B150-1B152 1B164-1B167 20000-2A6DF 2A700-2B738 " ++
  "2B740-2B81D 2B820-2CEA1 2CEB0-2EBE0 2F800-2FA1D 30000-3134A"

/-- Chinese characters and their parts. -/
def ideographRanges : Ranges := .parse <|
  "2E80-2E99 2E9B-2EF3 31C0-31E3 3400-4DBF 4E00-9FFF F900-FA6D FA70-FAD9 1F210-1F212 " ++
  "1F214-1F23B 1F240-1F248 20000-2A6DF 2A700-2B738 2B740-2B81D 2B820-2CEA1 2CEB0-2EBE0 " ++
  "2F800-2FA1D 30000-3134A"

def arabicRanges : Ranges := .parse <|
  "600-60A 60C-6FF 750-77F 870-88E 890-891 898-8FF 206C-206D FB50-FBC2 FBD3-FD3D FD40-FD8F " ++
  "FD92-FDC7 FDCF FDF0-FDFB FDFD-FDFF FE70-FE74 FE76-FEFC 1EE00-1EE03 1EE05-1EE1F " ++
  "1EE21-1EE22 1EE24 1EE27 1EE29-1EE32 1EE34-1EE37 1EE39 1EE3B 1EE42 1EE47 1EE49 1EE4B " ++
  "1EE4D-1EE4F 1EE51-1EE52 1EE54 1EE57 1EE59 1EE5B 1EE5D 1EE5F 1EE61-1EE62 1EE64 " ++
  "1EE67-1EE6A 1EE6C-1EE72 1EE74-1EE77 1EE79-1EE7C 1EE7E 1EE80-1EE89 1EE8B-1EE9B " ++
  "1EEA1-1EEA3 1EEA5-1EEA9 1EEAB-1EEBB 1EEF0-1EEF1"

/-- Arabic characters in the form they have by themselves. -/
def isolatedRanges : Ranges := .parse <|
  "6E2 FB50 FB52 FB56 FB5A FB5E FB62 FB66 FB6A FB6E FB72 FB76 FB7A FB7E FB82 FB84 FB86 " ++
  "FB88 FB8A FB8C FB8E FB92 FB96 FB9A FB9E FBA0 FBA4 FBA6 FBAA FBAE FBB0 FBD3 FBD7 FBD9 " ++
  "FBDB FBDD-FBDE FBE0 FBE2 FBE4 FBEA FBEC FBEE FBF0 FBF2 FBF4 FBF6 FBF9 FBFC FC00-FC63 " ++
  "FCF5-FD10 FD3D FDF0-FDF9 FE70 FE72 FE74 FE76 FE78 FE7A FE7C FE7E FE80-FE81 FE83 FE85 " ++
  "FE87 FE89 FE8D FE8F FE93 FE95 FE99 FE9D FEA1 FEA5 FEA9 FEAB FEAD FEAF FEB1 FEB5 FEB9 " ++
  "FEBD FEC1 FEC5 FEC9 FECD FED1 FED5 FED9 FEDD FEE1 FEE5 FEE9 FEED FEEF FEF1 FEF5 FEF7 " ++
  "FEF9 FEFB"

def isLatin (c : Char) : Bool := latinRanges.contains c

/-- A letter with a common accent. -/
def isAccented (c : Char) : Bool := accentRanges.contains c

/-- A letter of a script that leaves no blanks between words. -/
def isUnspaced (c : Char) : Bool := unspacedRanges.contains c

def isIdeograph (c : Char) : Bool := ideographRanges.contains c

def isArabic (c : Char) : Bool := arabicRanges.contains c

def isIsolated (c : Char) : Bool := isolatedRanges.contains c

/-- Letters, each followed by the accented letters that are made from it. An accented letter
with a second accent is made from the one with the first. -/
def accented : List String := [
  "AÀÁÂÃÄÅĀ", "CÇĆĈ", "DḐḒ", "EÈÉÊËĒȨḘḚẼ", "GĜĢǴḠ", "HĤḦḨ", "IÌÍÎÏĨĪḬ", "JĴ", "KĶḰ", "LĹĻḼ", "MḾ",
  "NÑŃŅǸṊ", "OÒÓÔÕÖŌ", "PṔ", "RŔŖ", "SŚŜŞ", "TŢṰ", "UÙÚÛÜŨŪŮṲṴṶ", "VṼ", "WŴẀẂẄ", "XẌ", "YÝŶŸȲỲỸ",
  "ZŹẐ", "aàáâãäåā", "cçćĉ", "dḑḓ", "eèéêëēȩḙḛẽ", "gĝģǵḡ", "hĥḧḩ", "iìíîïĩīḭ", "jĵ", "kķḱ",
  "lĺļḽ", "mḿ", "nñńņǹṋ", "oòóôõöō", "pṕ", "rŕŗ", "sśŝş", "tţṱẗ", "uùúûüũūůṳṵṷ", "vṽ", "wŵẁẃẅẘ",
  "xẍ", "yýÿŷȳẙỳỹ", "zźẑ", "ÂẤẦẨẪ", "ÄǞ", "ÅǺ", "ÆǢǼ", "ÇḈ", "ÊẾỀỂỄ", "ÏḮ", "ÔỐỒỔỖ", "ÕȬṌṎ", "ÖȪ",
  "ÜǕǗǙǛ", "âấầẩẫ", "äǟ", "åǻ", "æǣǽ", "çḉ", "êếềểễ", "ïḯ", "ôốồổỗ", "õȭṍṏ", "öȫ", "üǖǘǚǜ", "ĒḔḖ",
  "ēḕḗ", "ŌṐṒ", "ōṑṓ", "ŚṤ", "śṥ", "ŨṸ", "ũṹ", "ŪṺ", "ūṻ", "ȨḜ", "ȩḝ", "ẠẬ", "ạậ", "ẸỆ", "ẹệ",
  "ỌỘ", "ọộ"]

/-- The letter that an accented Latin letter is made from; any other character itself. -/
def unaccented (c : Char) : Char :=
  ((accented.map String.toList).findSome? fun
    | base :: made => if made.contains c then some base else none
    | [] => none).getD c

end ApiTypings.Text
