import ApiTypings.Encoding.Chinese
import ApiTypings.Encoding.Japanese
import ApiTypings.Encoding.Korean
import ApiTypings.Encoding.Lead
import ApiTypings.Encoding.Page
import ApiTypings.Encoding.Switching
import ApiTypings.Encoding.Wide

/-!
# The encodings of text

All encodings that a text without a mark may be in: the code pages, those of
Unicode, and those of East Asia.
-/

namespace ApiTypings.Encoding

open Text

inductive Coding
  /-- Every octet is a character by itself. -/
  | page (page : Page)
  /-- Characters take any number of octets. -/
  | spread (reader : Reader)

structure Charset where
  name : String
  coding : Coding

namespace Charset

def page? (charset : Charset) : Option Page :=
  match charset.coding with
  | .page page => some page
  | .spread _ => none

def read? (charset : Charset) (octets : List Nat) : Option (List Char) :=
  match charset.coding with
  | .page page => page.read? octets
  | .spread reader => reader.read? octets

def skim (charset : Charset) (octets : List Nat) : List Char :=
  match charset.coding with
  | .page page => octets.filterMap page.at?
  | .spread reader => reader.skim octets

/-- The encodings whose characters take any number of octets. -/
def spreads : List (String × Reader) := [
  ("big5", plainTraditional),
  ("big5hkscs", hongKongTraditional),
  ("cp932", vendorSqueezed),
  ("cp949", fullHangul),
  ("cp950", vendorTraditional),
  ("euc_jis_2004", plainExtension .complete),
  ("euc_jisx0213", plainExtension .first),
  ("euc_jp", plainKanji),
  ("euc_kr", plainHangul),
  ("gb18030", fullHanzi),
  ("gb2312", plainHanzi),
  ("gbk", pageHanzi),
  ("hz", bracedHanzi),
  ("iso2022_jp", (switchingKanji [.kanji, .roman, .firstKanji]).reader),
  ("iso2022_jp_1", (switchingKanji [.kanji, .kanjiSupplement, .roman, .firstKanji]).reader),
  ("iso2022_jp_2", switchingMany.reader),
  ("iso2022_jp_2004", (switchingKanji [.kanji, .completedPlane, .secondPlane]).reader),
  ("iso2022_jp_3", (switchingKanji [.kanji, .firstPlane, .secondPlane]).reader),
  ("iso2022_jp_ext",
    (switchingKanji [.kanji, .kanjiSupplement, .roman, .katakana, .firstKanji]).reader),
  ("iso2022_kr", switchingHangul.reader),
  ("johab", composedHangul),
  ("shift_jis", squeezedKanji),
  ("shift_jis_2004", squeezedExtension .complete),
  ("shift_jisx0213", squeezedExtension .first),
  ("utf_16_be", middleUnits .big),
  ("utf_16_le", middleUnits .little),
  ("utf_32_be", longUnits .big),
  ("utf_32_le", longUnits .little),
  ("utf_8", shortUnits)]

def all : List Charset :=
  let paged : List Charset := pages.map fun (name, page) => ⟨name, .page page⟩
  let spread : List Charset := spreads.map fun (name, reader) => ⟨name, .spread reader⟩
  (paged ++ spread).mergeSort fun a b => !decide (b.name < a.name)

def named? (name : String) : Option Charset := all.find? (·.name == name)

end Charset

end ApiTypings.Encoding
