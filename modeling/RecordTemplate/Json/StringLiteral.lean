import RecordTemplate.Json.Fault
import RecordTemplate.Text.Utf8

/-!
Strings in JSON text. `StringLiteral.encode` writes the shortest escapes and escapes only what has
to be; `StringLiteral.read` accepts every escape, with characters outside the basic plane as pairs
of surrogates.
-/

set_option autoImplicit false
set_option relaxedAutoImplicit false

namespace RecordTemplate.Json.StringLiteral

/-! ### Writing -/

/-- A character as it is written in a string. -/
def encodeChar (c : Char) : List Char :=
  match c with
  | '"' => ['\\', '"']
  | '\\' => ['\\', '\\']
  | '\x08' => ['\\', 'b']
  | '\t' => ['\\', 't']
  | '\n' => ['\\', 'n']
  | '\x0c' => ['\\', 'f']
  | '\r' => ['\\', 'r']
  | c =>
    if c.toNat < 0x20 then
      ['\\', 'u', '0', '0', Nat.digitChar (c.toNat / 16), Nat.digitChar (c.toNat % 16)]
    else [c]

def encode (text : List Char) : List Char :=
  '"' :: text.flatMap encodeChar ++ ['"']

/-! ### Reading -/

def hexValue? (c : Char) : Option Nat :=
  if '0' ≤ c ∧ c ≤ '9' then some (c.toNat - '0'.toNat)
  else if 'a' ≤ c ∧ c ≤ 'f' then some (c.toNat - 'a'.toNat + 10)
  else if 'A' ≤ c ∧ c ≤ 'F' then some (c.toNat - 'A'.toNat + 10)
  else none

/-- The number that four hexadecimal digits stand for. -/
def unitOfDigits? (a b c d : Char) : Option Nat := do
  let a ← hexValue? a
  let b ← hexValue? b
  let c ← hexValue? c
  let d ← hexValue? d
  return ((a * 16 + b) * 16 + c) * 16 + d

/-- The four hexadecimal digits of an escaped code unit. They are looked at only when there are
four bytes. -/
def readUnit (text : List Char) : Except Fault (Nat × List Char) :=
  match text with
  | a :: b :: c :: d :: rest =>
    match unitOfDigits? a b c d with
    | some unit => .ok (unit, rest)
    | none => .error .malformed
  | _ => .error (if Text.byteSize text < 4 then .truncated else .malformed)

def isLeadingSurrogate (unit : Nat) : Bool := 0xD800 ≤ unit && unit < 0xDC00

def isTrailingSurrogate (unit : Nat) : Bool := 0xDC00 ≤ unit && unit < 0xE000

/-- The character that a pair of surrogates stands for. -/
def ofSurrogates (leading trailing : Nat) : Char :=
  Char.ofNat (0x10000 + (leading - 0xD800) * 0x400 + (trailing - 0xDC00))

/-- The second half of a pair of surrogates, escaped like the first. -/
def readTrailing (leading : Nat) (text : List Char) : Except Fault (Char × List Char) :=
  match text with
  | [] | ['\\'] => .error .truncated
  | '\\' :: 'u' :: rest =>
    match readUnit rest with
    | .error fault => .error fault
    | .ok (unit, rest) =>
      if isTrailingSurrogate unit then .ok (ofSurrogates leading unit, rest)
      else .error .malformed
  | _ => .error .malformed

/-- The character of an escaped code unit. In a text that is passed over half a pair of surrogates
will do. -/
def readUnicode (purpose : Purpose) (text : List Char) : Except Fault (Char × List Char) :=
  match readUnit text with
  | .error fault => .error fault
  | .ok (unit, rest) =>
    if purpose = .keep ∧ isTrailingSurrogate unit then .error .malformed
    else if purpose = .keep ∧ isLeadingSurrogate unit then readTrailing unit rest
    else .ok (Char.ofNat unit, rest)

def ofShortEscape? : Char → Option Char
  | '"' => some '"'
  | '\\' => some '\\'
  | '/' => some '/'
  | 'b' => some '\x08'
  | 'f' => some '\x0c'
  | 'n' => some '\n'
  | 'r' => some '\r'
  | 't' => some '\t'
  | _ => none

/-- The character of an escape, given what stands behind the backslash. -/
def readEscape (purpose : Purpose) (text : List Char) : Except Fault (Char × List Char) :=
  match text with
  | [] => .error .truncated
  | 'u' :: rest => readUnicode purpose rest
  | c :: rest =>
    match ofShortEscape? c with
    | some escaped => .ok (escaped, rest)
    | none => .error .malformed

theorem readUnit_length {text rest : List Char} {unit : Nat}
    (hread : readUnit text = .ok (unit, rest)) : rest.length < text.length := by
  unfold readUnit at hread
  split at hread
  · split at hread
    · simp only [Except.ok.injEq, Prod.mk.injEq] at hread
      rw [← hread.2]
      simp only [List.length_cons]
      omega
    · contradiction
  · contradiction

theorem readTrailing_length {leading : Nat} {text rest : List Char} {c : Char}
    (hread : readTrailing leading text = .ok (c, rest)) : rest.length < text.length := by
  unfold readTrailing at hread
  split at hread
  · contradiction
  · contradiction
  · split at hread
    · contradiction
    · rename_i tail unit after hunit
      have hlength := readUnit_length hunit
      split at hread
      · simp only [Except.ok.injEq, Prod.mk.injEq] at hread
        rw [← hread.2]
        simp only [List.length_cons]
        omega
      · contradiction
  · contradiction

theorem readUnicode_length {purpose : Purpose} {text rest : List Char} {c : Char}
    (hread : readUnicode purpose text = .ok (c, rest)) : rest.length < text.length := by
  unfold readUnicode at hread
  split at hread
  · contradiction
  · rename_i unit after hunit
    have hlength := readUnit_length hunit
    split at hread
    · contradiction
    · split at hread
      · exact Nat.lt_trans (readTrailing_length hread) hlength
      · simp only [Except.ok.injEq, Prod.mk.injEq] at hread
        exact hread.2 ▸ hlength

theorem readEscape_length {purpose : Purpose} {text rest : List Char} {c : Char}
    (hread : readEscape purpose text = .ok (c, rest)) : rest.length < text.length := by
  unfold readEscape at hread
  split at hread
  · contradiction
  · exact Nat.lt_succ_of_lt (readUnicode_length hread)
  · split at hread
    · simp only [Except.ok.injEq, Prod.mk.injEq] at hread
      exact hread.2 ▸ Nat.lt_succ_self _
    · contradiction

/-- The text of a string up to its closing quote, given what stands behind the opening quote, and
the rest of the text. Controls have to be escaped. -/
def read (purpose : Purpose) (text : List Char) : Except Fault (List Char × List Char) :=
  match text with
  | [] => .error .truncated
  | '"' :: rest => .ok ([], rest)
  | '\\' :: rest =>
    match hescape : readEscape purpose rest with
    | .error fault => .error fault
    | .ok (c, behind) =>
      have : behind.length < rest.length := readEscape_length hescape
      (read purpose behind).map fun (chars, after) ↦ (c :: chars, after)
  | c :: rest =>
    if c.toNat < 0x20 then .error .malformed
    else (read purpose rest).map fun (chars, after) ↦ (c :: chars, after)
termination_by text.length

end RecordTemplate.Json.StringLiteral
