import CellGraph.Codec.CharacterTable
import CellGraph.Text.Basic

/-!
# Sets of characters by their names

What a name means as a set of characters with one byte for a character. Letter case does not count
in a name, and whatever separates its words counts as an underscore.
-/

namespace CellGraph

/-- What a name of a set of characters means. -/
inductive CharacterSet where
  /-- One byte stands for each character, ASCII among them; `upper` are those behind ASCII. -/
  | single (upper : Text)
  /-- ASCII without the tilde. -/
  | withoutTilde
  /-- A set with several bytes for a character, or with other characters in the place of ASCII. -/
  | other
  deriving DecidableEq, Repr

namespace CharacterSet

/-- A name in lower case with underscores between its words; points belong to words. -/
def key (name : Text) : Text :=
  let marked := name.map fun c => if c.isAlphanum || c == '.' then c.toLower else '_'
  Text.join ['_'] ((Text.split '_' marked).filter (· ≠ []))

/-- The names of ASCII without the tilde. -/
def tildeNames : List String := ["hz", "hz_gb", "hz_gb_2312", "hzgb"]

/-- The names of the sets that are not read. -/
def otherNames : List String := [
  "big5", "big5_hkscs", "big5_tw", "big5hkscs", "chinese", "cp037", "cp1026", "cp1140", "cp1361",
  "cp273", "cp424", "cp500", "cp864", "cp875", "cp932", "cp936", "cp949", "cp950", "csbig5",
  "csibm037", "csibm1026", "csibm273", "csibm424", "csibm500", "csibm864", "csiso2022kr",
  "csiso58gb231280", "csshiftjis", "ebcdic_cp_be", "ebcdic_cp_ca", "ebcdic_cp_ch", "ebcdic_cp_he",
  "ebcdic_cp_nl", "ebcdic_cp_us", "ebcdic_cp_wt", "euc_cn", "euc_jis2004", "euc_jis_2004",
  "euc_jisx0213", "euc_jp", "euc_kr", "euccn", "eucgb2312_cn", "eucjis2004", "eucjisx0213",
  "eucjp", "euckr", "gb18030", "gb18030_2000", "gb2312", "gb2312_1980", "gb2312_80", "gbk",
  "hkscs", "ibm037", "ibm039", "ibm1026", "ibm1140", "ibm273", "ibm424", "ibm500", "ibm864",
  "idna", "iso2022_kr", "iso2022kr", "iso_2022_kr", "iso_ir_58", "jisx0213", "johab", "korean",
  "ks_c_5601", "ks_c_5601_1987", "ks_x_1001", "ksc5601", "ksx1001", "mac_arabic", "mac_farsi",
  "ms1361", "ms932", "ms936", "ms949", "ms950", "ms_kanji", "mskanji", "punycode", "s_jis",
  "s_jis_2004", "s_jisx0213", "shift_jis", "shift_jis_2004", "shift_jisx0213", "shiftjis",
  "shiftjis2004", "shiftjisx0213", "sjis", "sjis_2004", "sjisx0213", "u16", "u32", "u7", "u_jis",
  "uhc", "ujis", "undefined", "unicode_1_1_utf_7", "unicodebigunmarked", "unicodelittleunmarked",
  "utf16", "utf32", "utf7", "utf_16", "utf_16_be", "utf_16_le", "utf_16be", "utf_16le", "utf_32",
  "utf_32_be", "utf_32_le", "utf_32be", "utf_32le", "utf_7", "x_mac_japanese", "x_mac_korean",
  "x_mac_simp_chinese", "x_mac_trad_chinese"]

def named? (name : Text) : Option CharacterSet :=
  let key := String.ofList (key name)
  let pointless := String.ofList (Text.swap '.' '_' key)
  match CharacterTable.all.find? fun t =>
      t.names.contains key || t.points.contains key || t.points.contains pointless with
  | some t => some (.single t.upper)
  | none =>
    if tildeNames.contains pointless then some .withoutTilde
    else if otherNames.contains pointless then some .other
    else none

/-- The character that a byte stands for. -/
def character? (s : CharacterSet) (b : UInt8) : Option Char :=
  let ascii := Char.ofNat b.toNat
  match s with
  | .single upper =>
    if b < 0x80 then some ascii else (upper[b.toNat - 0x80]?).filter (· ≠ ' ')
  | .withoutTilde => if b < 0x80 && ascii ≠ '~' then some ascii else none
  | .other => none

example : key "Windows--1252" = "windows_1252" := by decide +kernel
example : (single "é").character? 0x80 = some 'é' := by decide +kernel
example : withoutTilde.character? 0x7E = none := by decide +kernel

end CharacterSet
end CellGraph
