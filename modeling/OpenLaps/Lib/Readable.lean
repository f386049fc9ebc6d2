import Mathlib.Algebra.Ring.Nat
import Mathlib.Data.List.Basic

/- Texts that can be read back: an encoding is readable when the value and the
text that follows it are determined by their concatenation. -/
namespace Text

universe u v

variable {α : Type u} {β : Type v}

def Readable (encode : α → List Char) : Prop :=
  ∀ first second after after', encode first ++ after = encode second ++ after' →
    first = second ∧ after = after'

theorem Readable.injective {encode : α → List Char} (readable : Readable encode) :
    Function.Injective encode := by
  intro first second same
  have ended : encode first ++ [] = encode second ++ [] := by rw [same]
  exact (readable first second [] [] ended).1

/-- A reader of one value witnesses readability. -/
theorem readable_of_reader {encode : α → List Char} (read : List Char → Option (α × List Char))
    (reads : ∀ value after, read (encode value ++ after) = some (value, after)) :
    Readable encode := by
  intro first second after after' same
  have values := (reads first after).symm.trans (congrArg read same)
  rw [reads second after'] at values
  exact ⟨congrArg Prod.fst (Option.some.inj values), congrArg Prod.snd (Option.some.inj values)⟩

/-- A fixed text in front. -/
theorem Readable.lead {encode : α → List Char} (readable : Readable encode) (text : List Char) :
    Readable fun value => text ++ encode value := by
  intro first second after after' same
  rw [List.append_assoc, List.append_assoc, List.append_cancel_left_eq] at same
  exact readable first second after after' same

/-- A fixed text behind. -/
theorem Readable.trail {encode : α → List Char} (readable : Readable encode) (text : List Char) :
    Readable fun value => encode value ++ text := by
  intro first second after after' same
  rw [List.append_assoc, List.append_assoc] at same
  obtain ⟨equal, rest⟩ := readable first second _ _ same
  exact ⟨equal, List.append_cancel_left rest⟩

theorem Readable.pair {encode : α → List Char} {encode' : β → List Char}
    (readable : Readable encode) (readable' : Readable encode') :
    Readable fun value : α × β => encode value.1 ++ encode' value.2 := by
  intro first second after after' same
  rw [List.append_assoc, List.append_assoc] at same
  obtain ⟨left, rest⟩ := readable first.1 second.1 _ _ same
  obtain ⟨right, rest'⟩ := readable' first.2 second.2 _ _ rest
  exact ⟨Prod.ext left right, rest'⟩

theorem Readable.comp {encode : β → List Char} (readable : Readable encode) {view : α → β}
    (injective : Function.Injective view) : Readable fun value => encode (view value) := by
  intro first second after after' same
  obtain ⟨equal, rest⟩ := readable (view first) (view second) after after' same
  exact ⟨injective equal, rest⟩

/-- A separator neither text holds marks where they end. -/
theorem split_at_separator {separator : α} {first second after after' : List α}
    (absent : separator ∉ first) (absent' : separator ∉ second)
    (same : first ++ separator :: after = second ++ separator :: after') :
    first = second ∧ after = after' := by
  induction first generalizing second with
  | nil =>
    cases second with
    | nil => exact ⟨rfl, (List.cons.inj same).2⟩
    | cons head rest =>
      rw [(List.cons.inj same).1] at absent'
      exact absurd List.mem_cons_self absent'
  | cons head rest ih =>
    cases second with
    | nil =>
      rw [← (List.cons.inj same).1] at absent
      exact absurd List.mem_cons_self absent
    | cons head' rest' =>
      obtain ⟨heads, tails⟩ := List.cons.inj same
      obtain ⟨equal, ended⟩ := ih (fun member => absent (List.mem_cons_of_mem head member))
        (fun member => absent' (List.mem_cons_of_mem head' member)) tails
      rw [heads, equal]
      exact ⟨rfl, ended⟩

/-- Values one after the other up to a closing character. -/
def closed (encode : α → List Char) (close : Char) : List α → List Char
  | [] => [close]
  | value :: rest => encode value ++ closed encode close rest

theorem readable_closed {encode : α → List Char} {close : Char} (readable : Readable encode)
    (opens : ∀ value, ∃ head tail, encode value = head :: tail ∧ head ≠ close) :
    Readable (closed encode close) := by
  intro first
  induction first with
  | nil =>
    intro second after after' same
    cases second with
    | nil =>
      rw [closed, List.append_cancel_left_eq] at same
      exact ⟨rfl, same⟩
    | cons value rest =>
      obtain ⟨head, tail, starts, other⟩ := opens value
      rw [closed, closed, starts] at same
      exact absurd (List.cons.inj same).1.symm other
  | cons value rest ih =>
    intro second after after' same
    cases second with
    | nil =>
      obtain ⟨head, tail, starts, other⟩ := opens value
      rw [closed, closed, starts] at same
      exact absurd (List.cons.inj same).1 other
    | cons value' rest' =>
      rw [closed, closed, List.append_assoc, List.append_assoc] at same
      obtain ⟨equal, later⟩ := readable value value' _ _ same
      obtain ⟨equal', ended⟩ := ih rest' after after' later
      rw [equal, equal']
      exact ⟨rfl, ended⟩

/-- A bracketed list with `", "` between its items. -/
def listText (encode : α → List Char) : List α → List Char
  | [] => ['[', ']']
  | first :: rest => '[' :: (encode first ++ closed (fun value => ',' :: ' ' :: encode value) ']' rest)

theorem readable_listText {encode : α → List Char} (readable : Readable encode)
    (opens : ∀ value, ∃ head tail, encode value = head :: tail ∧ head ≠ ']') :
    Readable (listText encode) := by
  have separated : Readable (closed (fun value => ',' :: ' ' :: encode value) ']') :=
    readable_closed (readable.lead [',', ' ']) fun value => ⟨',', _, rfl, by decide⟩
  intro first second after after' same
  cases first with
  | nil =>
    cases second with
    | nil => exact ⟨rfl, List.append_cancel_left same⟩
    | cons value rest =>
      obtain ⟨head, tail, starts, other⟩ := opens value
      rw [listText, listText, starts] at same
      exact absurd (List.cons.inj (List.cons.inj same).2).1.symm other
  | cons value rest =>
    cases second with
    | nil =>
      obtain ⟨head, tail, starts, other⟩ := opens value
      rw [listText, listText, starts] at same
      exact absurd (List.cons.inj (List.cons.inj same).2).1 other
    | cons value' rest' =>
      rw [listText, listText, List.cons_append, List.cons_append, List.append_assoc,
        List.append_assoc] at same
      obtain ⟨equal, later⟩ := readable value value' _ _ (List.cons.inj same).2
      obtain ⟨equal', ended⟩ := separated rest rest' after after' later
      rw [equal, equal']
      exact ⟨rfl, ended⟩

def hexDigit (value : Nat) : Char := "0123456789abcdef".toList.getD value '0'

/-- The lowest `width` hexadecimal digits, most significant first. -/
def hexDigits : Nat → Nat → List Char
  | 0, _ => []
  | width + 1, value => hexDigits width (value / 16) ++ [hexDigit (value % 16)]

def hexValue (digits : List Char) : Nat :=
  digits.foldl (fun value digit => 16 * value + "0123456789abcdef".toList.idxOf digit) 0

theorem idxOf_hexDigit {value : Nat} (small : value < 16) :
    "0123456789abcdef".toList.idxOf (hexDigit value) = value := by
  have every : ∀ digit : Fin 16, "0123456789abcdef".toList.idxOf (hexDigit digit) = digit := by
    decide
  exact every ⟨value, small⟩

theorem hexValue_hexDigits (width value : Nat) (fits : value < 16 ^ width) :
    hexValue (hexDigits width value) = value := by
  induction width generalizing value with
  | zero =>
    have zero : value = 0 := by simpa using fits
    rw [zero]
    rfl
  | succ width ih =>
    have high : value / 16 < 16 ^ width := by
      rw [Nat.pow_succ] at fits
      omega
    have upper := ih (value / 16) high
    unfold hexValue at upper ⊢
    rw [hexDigits, List.foldl_append, upper, List.foldl_cons, List.foldl_nil,
      idxOf_hexDigit (Nat.mod_lt value (by decide))]
    omega

theorem hexDigits_length (width value : Nat) : (hexDigits width value).length = width := by
  induction width generalizing value with
  | zero => rfl
  | succ width ih => rw [hexDigits, List.length_append, ih, List.length_singleton]

section Literals

variable (printable : Char → Bool)

/-- Whether `repr` copies a character: the printable part of ASCII, and beyond it
whatever the Unicode tables call printable. -/
def plain (char : Char) : Bool :=
  if char.toNat < 128 then 32 ≤ char.toNat && char.toNat < 127 else printable char

/-- One character of a string literal delimited by `quote`. -/
def escape (quote char : Char) : List Char :=
  if char = quote ∨ char = '\\' then ['\\', char]
  else if char = '\t' then ['\\', 't']
  else if char = '\n' then ['\\', 'n']
  else if char = '\r' then ['\\', 'r']
  else if plain printable char then [char]
  else if char.toNat < 256 then '\\' :: 'x' :: hexDigits 2 char.toNat
  else if char.toNat < 65536 then '\\' :: 'u' :: hexDigits 4 char.toNat
  else '\\' :: 'U' :: hexDigits 8 char.toNat

/-- `repr` of a string: double quotes only when the text holds single quotes and
no double ones. -/
def quoteOf (text : List Char) : Char :=
  if '\'' ∈ text ∧ '"' ∉ text then '"' else '\''

def stringText (text : List Char) : List Char :=
  quoteOf text :: closed (escape printable (quoteOf text)) (quoteOf text) text

/-- Reads back one escaped character. -/
def unescape : List Char → Option (Char × List Char)
  | [] => none
  | '\\' :: 't' :: after => some ('\t', after)
  | '\\' :: 'n' :: after => some ('\n', after)
  | '\\' :: 'r' :: after => some ('\r', after)
  | '\\' :: 'x' :: after => some (Char.ofNat (hexValue (after.take 2)), after.drop 2)
  | '\\' :: 'u' :: after => some (Char.ofNat (hexValue (after.take 4)), after.drop 4)
  | '\\' :: 'U' :: after => some (Char.ofNat (hexValue (after.take 8)), after.drop 8)
  | '\\' :: char :: after => some (char, after)
  | char :: after => some (char, after)

theorem quoteOf_cases (text : List Char) : quoteOf text = '\'' ∨ quoteOf text = '"' := by
  unfold quoteOf
  split
  · exact Or.inr rfl
  · exact Or.inl rfl

theorem hex_read (width : Nat) (char : Char) (fits : char.toNat < 16 ^ width)
    (after : List Char) :
    some (Char.ofNat (hexValue ((hexDigits width char.toNat ++ after).take width)),
      (hexDigits width char.toNat ++ after).drop width) = some (char, after) := by
  have exactly : (hexDigits width char.toNat).length = width := hexDigits_length width char.toNat
  rw [List.take_left' exactly, List.drop_left' exactly, hexValue_hexDigits width _ fits,
    Char.ofNat_toNat]

theorem unescape_plain (char : Char) (after : List Char) (other : char ≠ '\\') :
    unescape (char :: after) = some (char, after) := by
  unfold unescape
  split <;> simp_all

theorem readable_escape (quote : Char) (delimiter : quote = '\'' ∨ quote = '"') :
    Readable (escape printable quote) := by
  apply readable_of_reader unescape
  intro char after
  unfold escape
  split
  · rename_i special
    rcases delimiter with rfl | rfl <;> rcases special with rfl | rfl <;> rfl
  · rename_i ordinary
    rw [not_or] at ordinary
    split
    · rename_i tab
      rw [tab]
      rfl
    · split
      · rename_i newline
        rw [newline]
        rfl
      · split
        · rename_i linefeed
          rw [linefeed]
          rfl
        · split
          · exact unescape_plain char after ordinary.2
          · split
            · rename_i small
              exact hex_read 2 char small after
            · split
              · rename_i small
                exact hex_read 4 char small after
              · have bound : char.toNat < 16 ^ 8 := by
                  have valid := char.valid
                  have scalar : char.toNat < 1114112 := by
                    rcases valid with low | ⟨_, high⟩
                    · exact Nat.lt_trans low (by decide)
                    · exact high
                  omega
                exact hex_read 8 char bound after

theorem escape_opens (quote char : Char) (delimiter : quote = '\'' ∨ quote = '"') :
    ∃ head tail, escape printable quote char = head :: tail ∧ head ≠ quote := by
  have slash : '\\' ≠ quote := by
    rcases delimiter with rfl | rfl <;> decide
  unfold escape
  split
  · exact ⟨_, _, rfl, slash⟩
  · rename_i ordinary
    rw [not_or] at ordinary
    split
    · exact ⟨_, _, rfl, slash⟩
    · split
      · exact ⟨_, _, rfl, slash⟩
      · split
        · exact ⟨_, _, rfl, slash⟩
        · split
          · exact ⟨_, _, rfl, ordinary.1⟩
          · split
            · exact ⟨_, _, rfl, slash⟩
            · split <;> exact ⟨_, _, rfl, slash⟩

/-- String literals are readable: the opening quote names the closing one. -/
theorem readable_stringText : Readable (stringText printable) := by
  intro first second after after' same
  have heads := List.cons.inj same
  have inner := heads.2
  rw [heads.1] at inner
  have body := readable_closed
    (readable_escape printable (quoteOf second) (quoteOf_cases second))
    fun char => escape_opens printable (quoteOf second) char (quoteOf_cases second)
  exact body first second after after' inner

end Literals

end Text
