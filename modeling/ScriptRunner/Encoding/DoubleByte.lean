import ScriptRunner.Encoding.Label

namespace ScriptRunner.Encoding

/-- Some characters of two bytes, by lead and trail. They stand in for the tables of thousands that the encodings have;
what is proved of runs holds for decoders of any type, and so for those that read these tables. -/
def pairTable : Encoding → List ((UInt8 × UInt8) × Char)
  | .gbk | .gb18030 => [((0xD6, 0xD0), '中'), ((0xCE, 0xC4), '文'), ((0xC4, 0xE3), '你'), ((0xBA, 0xC3), '好')]
  | .big5 => [((0xA4, 0xA4), '中'), ((0xA4, 0xE5), '文'), ((0xA7, 0x41), '你'), ((0xA6, 0x6E), '好')]
  | .shiftJis => [((0x93, 0xFA), '日'), ((0x96, 0x7B), '本'), ((0x8C, 0xEA), '語'), ((0x82, 0xA0), 'あ')]
  | .eucKr => [((0xC7, 0xD1), '한'), ((0xB1, 0xDB), '글'), ((0xB0, 0xA1), '가')]
  | _ => []

def ofPair? (e : Encoding) (lead trail : UInt8) : Option Char := (pairTable e).lookup (lead, trail)

def isLead (e : Encoding) (b : UInt8) : Bool :=
  match e with
  | .shiftJis => (0x81 ≤ b && b ≤ 0x9F) || (0xE0 ≤ b && b ≤ 0xFC)
  | _ => 0x81 ≤ b && b ≤ 0xFE

def upperAlone? (e : Encoding) (b : UInt8) : Option Char :=
  match e with
  | .shiftJis =>
    if 0xA1 ≤ b && b ≤ 0xDF then some (Char.ofNat (0xFF61 + (b.toNat - 0xA1)))
    else if b = 0x80 then some '\u0080' else none
  | .gbk | .gb18030 => if b = 0x80 then some '€' else none
  | _ => none

end ScriptRunner.Encoding
