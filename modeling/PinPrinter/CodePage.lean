/-! # Character tables

Each of the four table slots of the printer holds the number of a code page. The page of the active
slot is expanded into a map from bytes to characters; a national set then replaces twelve
positions of the map.
-/

namespace PinPrinter

/-- The character of each printer byte. -/
abbrev CharMap := Vector Char 256

namespace CodePage

/-- The code pages that have a table. -/
def supported : List Nat := [437, 850, 860, 863, 865, 866]

/-- The code page that stands in for one without a table. -/
def fallback : Nat := 437

/-- The code pages in the order of their selectors; 0 stands for the italic table. -/
def bySelector : List Nat :=
  [0, 437, 932, 850, 851, 853, 855, 860, 863, 865, 852, 857, 862, 864, 866, 869]

/-- The code page behind a selector. -/
def ofSelector? (selector : UInt8) : Option Nat :=
  bySelector[selector.toNat]?

/-- The pictures of the bytes below 20h, where they are not consumed as control codes. -/
def lowPictures : String :=
  " ☺☻♥♦♣♠•◘○◙♂♀♪♫☼►◄↕‼¶§▬↨↑↓→←∟↔▲▼"

/-- The second part of the upper half, from B0h, that several pages share. -/
private def sharedGraphics : String :=
  "░▒▓│┤╡╢╖╕╣║╗╝╜╛┐" ++
  "└┴┬├─┼╞╟╚╔╩╦╠═╬╧" ++
  "╨╤╥╙╘╒╓╫╪┘┌█▄▌▐▀" ++
  "αßΓπΣσµτΦΘΩδ∞φε∩" ++
  "≡±≥≤⌠⌡÷≈°∙·√ⁿ²■\u00a0"

private def upper437 : String :=
  "ÇüéâäàåçêëèïîìÄÅ" ++
  "ÉæÆôöòûùÿÖÜ¢£¥₧ƒ" ++
  "áíóúñÑªº¿⌐¬½¼¡«»" ++ sharedGraphics

private def upper850 : String :=
  "ÇüéâäàåçêëèïîìÄÅ" ++
  "ÉæÆôöòûùÿÖÜø£Ø×ƒ" ++
  "áíóúñÑªº¿®¬½¼¡«»" ++
  "░▒▓│┤ÁÂÀ©╣║╗╝¢¥┐" ++
  "└┴┬├─┼ãÃ╚╔╩╦╠═╬¤" ++
  "ðÐÊËÈıÍÎÏ┘┌█▄¦Ì▀" ++
  "ÓßÔÒõÕµþÞÚÛÙýÝ¯´" ++
  "\u00ad±‗¾¶§÷¸°¨·¹³²■\u00a0"

private def upper860 : String :=
  "ÇüéâãàÁçêÊèÍÔìÃÂ" ++
  "ÉÀÈôõòÚùÌÕÜ¢£Ù₧Ó" ++
  "áíóúñÑªº¿Ò¬½¼¡«»" ++ sharedGraphics

private def upper863 : String :=
  "ÇüéâÂà¶çêëèïî‗À§" ++
  "ÉÈÊôËÏûù¤ÔÜ¢£ÙÛƒ" ++
  "¦´óú¨¸³¯Î⌐¬½¼¾«»" ++ sharedGraphics

private def upper865 : String :=
  "ÇüéâäàåçêëèïîìÄÅ" ++
  "ÉæÆôöòûùÿÖÜø£Ø₧ƒ" ++
  "áíóúñÑªº¿⌐¬½¼¡«¤" ++ sharedGraphics

private def upper866 : String :=
  "АБВГДЕЖЗИЙКЛМНОП" ++
  "РСТУФХЦЧШЩЪЫЬЭЮЯ" ++
  "абвгдежзийклмноп" ++
  "░▒▓│┤╡╢╖╕╣║╗╝╜╛┐" ++
  "└┴┬├─┼╞╟╚╔╩╦╠═╬╧" ++
  "╨╤╥╙╘╒╓╫╪┘┌█▄▌▐▀" ++
  "рстуфхцчшщъыьэюя" ++
  "ЁёЄєЇїЎў°∙·√№¤■\u00a0"

/-- The characters of the bytes from 80h to FFh. -/
def upperHalf? (page : Nat) : Option String :=
  match page with
  | 437 => some upper437
  | 850 => some upper850
  | 860 => some upper860
  | 863 => some upper863
  | 865 => some upper865
  | 866 => some upper866
  | _ => none

/-- The map of a code page; a page without a table is mapped like the fallback. -/
def charMap (page : Nat) : CharMap :=
  let low := lowPictures.toList.toArray
  let high := (((upperHalf? page).orElse fun _ => upperHalf? fallback).getD "").toList.toArray
  Vector.ofFn fun byte : Fin 256 =>
    if byte.val < 0x20 then low[byte.val]?.getD ' '
    else if byte.val < 0x7F then Char.ofNat byte.val
    else if byte.val = 0x7F then '⌂'
    else high[byte.val - 0x80]?.getD ' '

end CodePage

namespace NationalSet

/-- The positions that a national set replaces. -/
def positions : List (Fin 256) :=
  [0x23, 0x24, 0x40, 0x5B, 0x5C, 0x5D, 0x5E, 0x60, 0x7B, 0x7C, 0x7D, 0x7E]

/-- The characters of each set, in the order of the positions. -/
def sets : List String := [
  -- USA
  "#$@[\\]^`\x7b|\x7d~",
  -- France
  "#$à°ç§^`éùè¨",
  -- Germany
  "#$§ÄÖÜ^`äöüß",
  -- United Kingdom
  "£$@[\\]^`\x7b|\x7d~",
  -- Denmark I
  "#$@ÆØÅ^`æøå~",
  -- Sweden
  "#¤ÉÄÖÅÜéäöåü",
  -- Italy
  "#$@°\\é^ùàòèì",
  -- Spain I
  "₧$@¡Ñ¿^`¨ñ\x7d~",
  -- Japan
  "#$@[¥]^`\x7b|\x7d~",
  -- Norway
  "#¤ÉÆØÅÜéæøåü",
  -- Denmark II
  "#$ÉÆØÅÜéæøåü",
  -- Spain II
  "#$á¡Ñ¿é`íñóú",
  -- Latin America
  "#$á¡Ñ¿éüíñóú",
  -- Korea
  "#$@[₩]^`\x7b|\x7d~",
  -- Legal
  "#$§°'\"¶`©®†™"]

/-- The set behind a selector: the first fourteen are numbered, the legal set is number 64. -/
def ofSelector? (selector : UInt8) : Option String :=
  if selector.toNat ≤ 13 then sets[selector.toNat]?
  else if selector = 64 then sets[14]?
  else none

/-- Put the characters of a set at its positions. -/
def patch (map : CharMap) (characters : List Char) : CharMap :=
  (positions.zip characters).foldl (fun map entry => map.set entry.1.val entry.2) map

/-- The map with a national set in place; none for an unknown selector. -/
def install? (map : CharMap) (selector : UInt8) : Option CharMap :=
  (ofSelector? selector).map fun characters => patch map characters.toList

end NationalSet

end PinPrinter
