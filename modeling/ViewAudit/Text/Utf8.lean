/-!
UTF-8, read strictly: every character has exactly one encoding. Sequences that
are longer than needed, cut short, above U+10FFFF or that stand for a
surrogate are refused.
-/

namespace ViewAudit.Utf8

/-- The bytes of a text. -/
def encode (text : List Char) : List UInt8 := text.flatMap String.utf8EncodeChar

/-- The six bits of a byte that continues a sequence. -/
def continuation? (byte : UInt8) : Option Nat :=
  if 0x80 ≤ byte ∧ byte < 0xC0 then some (byte.toNat - 0x80) else none

/-- The character with a code point that is at least `least`, the smallest one
that needs a sequence as long as the one it came in. -/
def scalar? (least value : Nat) : Option Char :=
  if least ≤ value ∧ value.isValidChar then some (Char.ofNat value) else none

/-- The text that some bytes encode, if they are well-formed. -/
def decode? : List UInt8 → Option (List Char)
  | [] => some []
  | a :: afterA =>
      if a < 0x80 then
        (decode? afterA).map (Char.ofNat a.toNat :: ·)
      else
        match afterA with
        | [] => none
        | b :: afterB =>
            if a < 0xC0 then none
            else if a < 0xE0 then do
              let low ← continuation? b
              let char ← scalar? 0x80 ((a.toNat - 0xC0) * 64 + low)
              return char :: (← decode? afterB)
            else
              match afterB with
              | [] => none
              | c :: afterC =>
                  if a < 0xF0 then do
                    let middle ← continuation? b
                    let low ← continuation? c
                    let char ← scalar? 0x800 (((a.toNat - 0xE0) * 64 + middle) * 64 + low)
                    return char :: (← decode? afterC)
                  else
                    match afterC with
                    | [] => none
                    | d :: afterD => do
                        let high ← continuation? b
                        let middle ← continuation? c
                        let low ← continuation? d
                        let char ← scalar? 0x10000
                          ((((a.toNat - 0xF0) * 64 + high) * 64 + middle) * 64 + low)
                        return char :: (← decode? afterD)

example : decode? [0xE2, 0x82, 0xAC] = some ['€'] := by decide

/-- A slash in a sequence that is longer than needed, half of a surrogate pair,
and a sequence that is cut short. -/
example : decode? [0xC0, 0xAF] = none ∧ decode? [0xED, 0xA0, 0x80] = none ∧
    decode? [0xE2, 0x82] = none := by decide

/-- The text that some bytes encode, as a string. -/
def text? (bytes : List UInt8) : Option String := (decode? bytes).map String.ofList

/-- The bytes of a string. -/
def bytes (text : String) : List UInt8 := encode text.toList

end ViewAudit.Utf8
