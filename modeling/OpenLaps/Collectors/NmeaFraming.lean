import Mathlib.Data.Nat.Bitwise
import OpenLaps.Collectors.Nmea
import OpenLaps.Core.StringRules

/- A sentence with its frame of dollar, star and white space: wherever but at the star one
character is replaced, it yields nothing or the same values. -/
namespace OpenLaps.Nmea
open Strings

variable {runtime : Runtime} {source : String}

section Checksum

theorem checksum_from (start : Nat) (body : Text) :
    body.foldl (fun checksum char => checksum ^^^ char.toNat) start = start ^^^ checksum body := by
  unfold checksum
  induction body generalizing start with
  | nil => simp
  | cons char rest ih =>
      rw [List.foldl_cons, List.foldl_cons, ih, ih (0 ^^^ char.toNat), Nat.zero_xor, Nat.xor_assoc]

theorem checksum_append (first second : Text) :
    checksum (first ++ second) = checksum first ^^^ checksum second := by
  rw [← checksum_from, checksum, List.foldl_append]
  rfl

theorem checksum_cons (char : Char) (rest : Text) :
    checksum (char :: rest) = char.toNat ^^^ checksum rest := by
  rw [← checksum_from, checksum, List.foldl_cons, Nat.zero_xor]

/-- One character more or less moves the checksum. -/
theorem checksum_replaced {before after : Text} {old new : Char} (different : new ≠ old) :
    checksum (before ++ new :: after) ≠ checksum (before ++ old :: after) := by
  rw [checksum_append, checksum_append, checksum_cons, checksum_cons]
  intro same
  have chars := Nat.xor_left_injective (Nat.xor_right_injective same)
  exact different (Char.toNat_inj.mp chars)

end Checksum

/-- A sentence in white space, with a checksum that agrees with its body. -/
structure Framed (runtime : Runtime) (raw lead body : Text) (high low : Char) (trail : Text) :
    Prop where
  whole : raw = lead ++ '$' :: (body ++ '*' :: high :: low :: trail)
  lead : Spaces runtime lead
  trail : Spaces runtime trail
  last : runtime.isSpace low = false
  absent : '*' ∉ body
  sum : runtime.upperText [high, low] = formatHex 2 (checksum body)

theorem dollar_plain : runtime.isSpace '$' = false := by
  simp [Runtime.isSpace, isAscii]

theorem star_plain : runtime.isSpace '*' = false := by
  simp [Runtime.isSpace, isAscii]

theorem comma_plain : runtime.isSpace ',' = false := by
  simp [Runtime.isSpace, isAscii]

theorem validatedBody_dollar (payload : Text) :
    validatedBody runtime ('$' :: payload) =
      match partition '*' payload with
      | (body, none) => .ok body
      | (body, some supplied) =>
          if supplied.length ≠ 2 then .error (.valueError "invalid NMEA checksum field")
          else if runtime.upperText supplied ≠ formatHex 2 (checksum body) then
            .error (.valueError "NMEA checksum mismatch")
          else .ok body := rfl

/-- What a body and its checksum come to. -/
theorem validatedBody_star {body : Text} (absent : '*' ∉ body) (supplied : Text) :
    validatedBody runtime ('$' :: (body ++ '*' :: supplied)) =
      if supplied.length ≠ 2 then .error (.valueError "invalid NMEA checksum field")
      else if runtime.upperText supplied ≠ formatHex 2 (checksum body) then
        .error (.valueError "NMEA checksum mismatch")
      else .ok body := by
  rw [validatedBody_dollar, partition_at absent]

theorem validatedBody_bare {body : Text} (absent : '*' ∉ body) :
    validatedBody runtime ('$' :: body) = .ok body := by
  rw [validatedBody_dollar, partition_absent absent]

theorem validatedBody_other {first : Char} (rest : Text) (other : first ≠ '$') :
    ∃ error, validatedBody runtime (first :: rest) = .error error := by
  unfold validatedBody
  split
  · rename_i same
    cases same
    exact absurd rfl other
  · exact ⟨_, rfl⟩

/-- `decode` of a text, without its counters. -/
def readText (runtime : Runtime) (source : String) (text : Text) :
    Except PyError (Kind × Values) := do
  let body ← validatedBody runtime (runtime.strip text)
  decodeFields runtime source (splitOn ',' body)

theorem readText_error {text : Text} {error : PyError}
    (refused : validatedBody runtime (runtime.strip text) = .error error) :
    ∃ error, readText runtime source text = .error error := by
  refine ⟨error, ?_⟩
  rw [readText, refused]
  rfl

theorem readText_body {text body : Text}
    (valid : validatedBody runtime (runtime.strip text) = .ok body) :
    readText runtime source text = decodeFields runtime source (splitOn ',' body) := by
  rw [readText, valid]
  rfl

namespace Framed

variable {raw lead body trail : Text} {high low : Char}

theorem strip (framed : Framed runtime raw lead body high low trail) :
    runtime.strip raw = '$' :: (body ++ '*' :: [high, low]) := by
  have text : raw = lead ++ ('$' :: ((body ++ ['*', high]) ++ [low]) ++ trail) := by
    rw [framed.whole]
    simp
  rw [text, strip_framed framed.lead framed.trail
    (trimmed_between _ dollar_plain framed.last)]
  simp

theorem valid (framed : Framed runtime raw lead body high low trail) :
    validatedBody runtime (runtime.strip raw) = .ok body := by
  rw [framed.strip, validatedBody_star framed.absent, if_neg (by simp), if_neg (not_not.mpr framed.sum)]

/-- Every accepted sentence with a checksum is framed. -/
theorem exists_of_valid (valid : validatedBody runtime (runtime.strip raw) = .ok body)
    (star : '*' ∈ runtime.strip raw) :
    ∃ lead high low trail, Framed runtime raw lead body high low trail := by
  obtain ⟨lead, trail, whole, before, after, trimmed⟩ := exists_frame runtime raw
  unfold validatedBody at valid
  split at valid
  · rename_i payload text
    have within : '*' ∈ payload := by
      rw [text] at star
      rcases List.mem_cons.mp star with dollar | inside
      · cases dollar
      · exact inside
    obtain ⟨body', supplied, split, absent⟩ := exists_first within
    rw [split, partition_at absent] at valid
    dsimp only at valid
    split at valid
    · cases valid
    · rename_i pair
      split at valid
      · cases valid
      · rename_i sum
        cases valid
        obtain ⟨high, low, rfl⟩ := List.length_eq_two.mp (not_not.mp pair)
        refine ⟨lead, high, low, trail, ?_, before, after, ?_, absent, not_not.mp sum⟩
        · rw [whole, text, split]
          simp
        · apply trimmed.last low
          rw [text, split]
          simp [List.getLast?_cons]
  · cases valid

end Framed

theorem decodeFields_ignored {fields : List Text}
    (other : lastChars 3 (fieldAt fields 0) ∉ ["GGA".toList, "GST".toList, "RMC".toList]) :
    decodeFields runtime source fields = .ok (.ignored, []) := by
  simp only [List.mem_cons, List.not_mem_nil, or_false, not_or] at other
  unfold decodeFields
  dsimp only
  rw [if_neg other.1, if_neg other.2.1, if_pos other.2.2]

/-- The talker is known by the last three characters of the first field, so a dollar and what
stands in front of it there are nothing to the decoder. -/
theorem decodeFields_prepend {front : Text} (comma : ',' ∉ front) (body : Text) :
    decodeFields runtime source (splitOn ',' (front ++ '$' :: body)) =
      decodeFields runtime source (splitOn ',' body) := by
  have absent : ',' ∉ front ++ ['$'] := by simpa using comma
  obtain ⟨head, rest, plain, joined⟩ := splitOn_prepend absent body
  rw [List.append_assoc, List.singleton_append] at joined
  rw [plain, joined]
  have size : (front ++ ['$'] ++ head).length - 3 = front.length + 1 + head.length - 3 := by
    rw [List.length_append, List.length_append, List.length_singleton]
  by_cases long : 3 ≤ head.length
  · have same : lastChars 3 (front ++ ['$'] ++ head) = lastChars 3 head := by
      have place : front.length + 1 + head.length - 3 =
          (front ++ ['$']).length + (head.length - 3) := by
        rw [List.length_append, List.length_singleton]
        omega
      rw [lastChars, size, place, List.drop_length_add_append]
      rfl
    unfold decodeFields
    rw [show fieldAt ((front ++ ['$'] ++ head) :: rest) 0 = front ++ ['$'] ++ head from rfl,
      show fieldAt (head :: rest) 0 = head from rfl, same]
    rfl
  · have short : lastChars 3 head = head := by
      unfold lastChars
      rw [show head.length - 3 = 0 by omega, List.drop_zero]
    have plainTalker : lastChars 3 (fieldAt (head :: rest) 0) ∉
        ["GGA".toList, "GST".toList, "RMC".toList] := by
      rw [show fieldAt (head :: rest) 0 = head from rfl, short]
      intro talker
      have three : ∀ name ∈ ["GGA".toList, "GST".toList, "RMC".toList], name.length = 3 := by decide
      have length := three head talker
      omega
    have dollar : '$' ∈ lastChars 3 (front ++ ['$'] ++ head) := by
      rw [lastChars, size, List.append_assoc, List.drop_append_of_le_length (by omega)]
      simp
    have joinedTalker : lastChars 3 (fieldAt ((front ++ ['$'] ++ head) :: rest) 0) ∉
        ["GGA".toList, "GST".toList, "RMC".toList] := by
      intro talker
      have without : ∀ name ∈ ["GGA".toList, "GST".toList, "RMC".toList], '$' ∉ name := by decide
      exact without _ talker dollar
    rw [decodeFields_ignored plainTalker, decodeFields_ignored joinedTalker]

/-- A corrupted sentence that yields nothing new. -/
def Harmless (runtime : Runtime) (source : String) (raw corrupted : Text) : Prop :=
  (∃ error, readText runtime source corrupted = .error error) ∨
    readText runtime source corrupted = readText runtime source raw

namespace Framed

variable {raw lead body trail front back : Text} {high low old new : Char}

/-- Any checksum but two characters is refused. -/
theorem harmless_length {raw corrupted before supplied : Text}
    (strip : runtime.strip corrupted = '$' :: (before ++ '*' :: supplied))
    (absent : '*' ∉ before) (length : supplied.length ≠ 2) :
    Harmless runtime source raw corrupted := by
  left
  apply readText_error
  rw [strip, validatedBody_star absent, if_pos length]

/-- With two characters, only a checksum that agrees gets the body read. -/
theorem harmless_body {raw corrupted before supplied : Text}
    (strip : runtime.strip corrupted = '$' :: (before ++ '*' :: supplied))
    (absent : '*' ∉ before) (length : supplied.length = 2)
    (same : runtime.upperText supplied = formatHex 2 (checksum before) →
      decodeFields runtime source (splitOn ',' before) = readText runtime source raw) :
    Harmless runtime source raw corrupted := by
  by_cases sum : runtime.upperText supplied = formatHex 2 (checksum before)
  · right
    have valid : validatedBody runtime (runtime.strip corrupted) = .ok before := by
      rw [strip, validatedBody_star absent, if_neg (not_not.mpr length), if_neg (not_not.mpr sum)]
    rw [readText_body valid, same sum]
  · left
    apply readText_error
    rw [strip, validatedBody_star absent, if_neg (not_not.mpr length), if_pos sum]

/-- A first character other than the dollar is refused. -/
theorem harmless_head {raw corrupted rest : Text} {first : Char}
    (strip : runtime.strip corrupted = first :: rest) (other : first ≠ '$') :
    Harmless runtime source raw corrupted := by
  left
  obtain ⟨error, refused⟩ : ∃ error, validatedBody runtime (first :: rest) = .error error :=
    validatedBody_other rest other
  rw [← strip] at refused
  exact readText_error refused

/-- In the white space before the sentence. -/
theorem lead_replaced (framed : Framed runtime raw (front ++ old :: back) body high low trail)
    (source : String) (new : Char) :
    Harmless runtime source raw
      (front ++ new :: back ++ '$' :: (body ++ '*' :: high :: low :: trail)) := by
  have before : Spaces runtime front := fun char member => framed.lead char (by simp [member])
  have between : Spaces runtime back := fun char member => framed.lead char (by simp [member])
  by_cases space : runtime.isSpace new = true
  · right
    have again : Framed runtime
        (front ++ new :: back ++ '$' :: (body ++ '*' :: high :: low :: trail))
        (front ++ new :: back) body high low trail := by
      refine { framed with whole := rfl, lead := ?_ }
      intro char member
      rcases List.mem_append.mp member with first | second
      · exact before char first
      · rcases List.mem_cons.mp second with rfl | last
        · exact space
        · exact between char last
    rw [readText_body again.valid, readText_body framed.valid]
  · have plain : runtime.isSpace new = false := by simpa using space
    have strip : runtime.strip
        (front ++ new :: back ++ '$' :: (body ++ '*' :: high :: low :: trail)) =
          new :: (back ++ '$' :: body ++ '*' :: [high, low]) := by
      have text : front ++ new :: back ++ '$' :: (body ++ '*' :: high :: low :: trail) =
          front ++ (new :: ((back ++ '$' :: body ++ ['*', high]) ++ [low]) ++ trail) := by simp
      rw [text, strip_framed before framed.trail (trimmed_between _ plain framed.last)]
      simp
    by_cases dollar : new = '$'
    · rw [dollar] at strip ⊢
      have absent : '*' ∉ back ++ '$' :: body := by
        simp [between.absent star_plain, framed.absent]
      refine harmless_body strip absent rfl fun _ => ?_
      rw [decodeFields_prepend (between.absent comma_plain), readText_body framed.valid]
    · exact harmless_head strip dollar

/-- The dollar. -/
theorem dollar_replaced (framed : Framed runtime raw lead body high low trail) (source : String)
    (different : new ≠ '$') :
    Harmless runtime source raw (lead ++ new :: (body ++ '*' :: high :: low :: trail)) := by
  by_cases space : runtime.isSpace new = true
  · have before : Spaces runtime (lead ++ new :: body.takeWhile runtime.isSpace) := by
      intro char member
      rcases List.mem_append.mp member with first | second
      · exact framed.lead char first
      · rcases List.mem_cons.mp second with rfl | inside
        · exact space
        · exact List.mem_takeWhile_imp inside
    have spaces : Spaces runtime (body.takeWhile runtime.isSpace) :=
      fun char member => List.mem_takeWhile_imp member
    have split := List.takeWhile_append_dropWhile (p := runtime.isSpace) (l := body)
    have begins := head_dropWhile runtime.isSpace body
    have absent := framed.absent
    rw [← split] at absent
    cases rest : body.dropWhile runtime.isSpace with
    | nil =>
        have strip : runtime.strip (lead ++ new :: (body ++ '*' :: high :: low :: trail)) =
            '*' :: [high, low] := by
          rw [rest, List.append_nil] at split
          have text : lead ++ new :: (body ++ '*' :: high :: low :: trail) =
              lead ++ new :: body.takeWhile runtime.isSpace ++
                ('*' :: ([high] ++ [low]) ++ trail) := by
            rw [split]
            simp
          rw [text, strip_framed before framed.trail (trimmed_between _ star_plain framed.last)]
          simp
        exact harmless_head strip (by decide)
    | cons first more =>
        rw [rest] at split absent begins
        have plain := begins first rfl
        have strip : runtime.strip (lead ++ new :: (body ++ '*' :: high :: low :: trail)) =
            first :: (more ++ '*' :: [high, low]) := by
          have text : lead ++ new :: (body ++ '*' :: high :: low :: trail) =
              lead ++ new :: body.takeWhile runtime.isSpace ++
                (first :: ((more ++ ['*', high]) ++ [low]) ++ trail) := by
            nth_rewrite 1 [← split]
            simp
          rw [text, strip_framed before framed.trail (trimmed_between _ plain framed.last)]
          simp
        by_cases dollar : first = '$'
        · rw [dollar] at strip split absent
          have behind : '*' ∉ more := fun member => absent (by simp [member])
          refine harmless_body strip behind rfl fun _ => ?_
          rw [readText_body framed.valid, ← split, decodeFields_prepend (spaces.absent comma_plain)]
        · exact harmless_head strip dollar
  · have plain : runtime.isSpace new = false := by simpa using space
    have strip : runtime.strip (lead ++ new :: (body ++ '*' :: high :: low :: trail)) =
        new :: (body ++ '*' :: [high, low]) := by
      have text : lead ++ new :: (body ++ '*' :: high :: low :: trail) =
          lead ++ (new :: ((body ++ ['*', high]) ++ [low]) ++ trail) := by simp
      rw [text, strip_framed framed.lead framed.trail (trimmed_between _ plain framed.last)]
      simp
    exact harmless_head strip different

/-- What the sentence is stripped to once its body has changed. -/
theorem strip_body (framed : Framed runtime raw lead body high low trail) (body' : Text) :
    runtime.strip (lead ++ '$' :: (body' ++ '*' :: high :: low :: trail)) =
      '$' :: (body' ++ '*' :: [high, low]) := by
  have text : lead ++ '$' :: (body' ++ '*' :: high :: low :: trail) =
      lead ++ ('$' :: ((body' ++ ['*', high]) ++ [low]) ++ trail) := by simp
  rw [text, strip_framed framed.lead framed.trail (trimmed_between _ dollar_plain framed.last)]
  simp

/-- In the body. -/
theorem body_replaced (framed : Framed runtime raw lead (front ++ old :: back) high low trail)
    (source : String) (different : new ≠ old) :
    Harmless runtime source raw
      (lead ++ '$' :: (front ++ new :: back ++ '*' :: high :: low :: trail)) := by
  have strip := framed.strip_body (front ++ new :: back)
  have before : '*' ∉ front := fun member => framed.absent (by simp [member])
  by_cases star : new = '*'
  · rw [star] at strip ⊢
    have text : front ++ '*' :: back ++ '*' :: [high, low] =
        front ++ '*' :: (back ++ ['*', high, low]) := by simp
    rw [text] at strip
    exact harmless_length strip before (by simp)
  · have after : '*' ∉ back := fun member => framed.absent (by simp [member])
    have absent : '*' ∉ front ++ new :: back := by
      simp [before, after, Ne.symm star]
    refine harmless_body strip absent rfl fun sum => ?_
    rw [framed.sum] at sum
    exact absurd (formatHex_injective 2 sum).symm (checksum_replaced different)

/-- In the checksum. -/
theorem high_replaced (framed : Framed runtime raw lead body old low trail) (source : String)
    (new : Char) :
    Harmless runtime source raw (lead ++ '$' :: (body ++ '*' :: new :: low :: trail)) := by
  have text : lead ++ '$' :: (body ++ '*' :: new :: low :: trail) =
      lead ++ ('$' :: ((body ++ ['*', new]) ++ [low]) ++ trail) := by simp
  have strip : runtime.strip (lead ++ '$' :: (body ++ '*' :: new :: low :: trail)) =
      '$' :: (body ++ '*' :: [new, low]) := by
    rw [text, strip_framed framed.lead framed.trail (trimmed_between _ dollar_plain framed.last)]
    simp
  exact harmless_body strip framed.absent rfl fun _ => (readText_body framed.valid).symm

theorem low_replaced (framed : Framed runtime raw lead body high old trail) (source : String)
    (new : Char) :
    Harmless runtime source raw (lead ++ '$' :: (body ++ '*' :: high :: new :: trail)) := by
  by_cases space : runtime.isSpace new = true
  · have behind : Spaces runtime (new :: trail) := by
      intro char member
      rcases List.mem_cons.mp member with rfl | inside
      · exact space
      · exact framed.trail char inside
    by_cases space' : runtime.isSpace high = true
    · have further : Spaces runtime (high :: new :: trail) := by
        intro char member
        rcases List.mem_cons.mp member with rfl | inside
        · exact space'
        · exact behind char inside
      have text : lead ++ '$' :: (body ++ '*' :: high :: new :: trail) =
          lead ++ ('$' :: (body ++ ['*']) ++ high :: new :: trail) := by simp
      have strip : runtime.strip (lead ++ '$' :: (body ++ '*' :: high :: new :: trail)) =
          '$' :: (body ++ '*' :: []) := by
        rw [text, strip_framed framed.lead further (trimmed_between _ dollar_plain star_plain)]
      exact harmless_length strip framed.absent (by simp)
    · have plain : runtime.isSpace high = false := by simpa using space'
      have text : lead ++ '$' :: (body ++ '*' :: high :: new :: trail) =
          lead ++ ('$' :: ((body ++ ['*']) ++ [high]) ++ new :: trail) := by simp
      have strip : runtime.strip (lead ++ '$' :: (body ++ '*' :: high :: new :: trail)) =
          '$' :: (body ++ '*' :: [high]) := by
        rw [text, strip_framed framed.lead behind (trimmed_between _ dollar_plain plain)]
        simp
      exact harmless_length strip framed.absent (by simp)
  · have plain : runtime.isSpace new = false := by simpa using space
    have text : lead ++ '$' :: (body ++ '*' :: high :: new :: trail) =
        lead ++ ('$' :: ((body ++ ['*', high]) ++ [new]) ++ trail) := by simp
    have strip : runtime.strip (lead ++ '$' :: (body ++ '*' :: high :: new :: trail)) =
        '$' :: (body ++ '*' :: [high, new]) := by
      rw [text, strip_framed framed.lead framed.trail (trimmed_between _ dollar_plain plain)]
      simp
    exact harmless_body strip framed.absent rfl fun _ => (readText_body framed.valid).symm

/-- In the white space behind the sentence. -/
theorem trail_replaced (framed : Framed runtime raw lead body high low (front ++ old :: back))
    (source : String) (new : Char) :
    Harmless runtime source raw
      (lead ++ '$' :: (body ++ '*' :: high :: low :: (front ++ new :: back))) := by
  have before : Spaces runtime front := fun char member => framed.trail char (by simp [member])
  have behind : Spaces runtime back := fun char member => framed.trail char (by simp [member])
  by_cases space : runtime.isSpace new = true
  · right
    have again : Framed runtime
        (lead ++ '$' :: (body ++ '*' :: high :: low :: (front ++ new :: back)))
        lead body high low (front ++ new :: back) := by
      refine { framed with whole := rfl, trail := ?_ }
      intro char member
      rcases List.mem_append.mp member with first | second
      · exact before char first
      · rcases List.mem_cons.mp second with rfl | last
        · exact space
        · exact behind char last
    rw [readText_body again.valid, readText_body framed.valid]
  · have plain : runtime.isSpace new = false := by simpa using space
    have text : lead ++ '$' :: (body ++ '*' :: high :: low :: (front ++ new :: back)) =
        lead ++ ('$' :: ((body ++ '*' :: high :: low :: front) ++ [new]) ++ back) := by simp
    have strip : runtime.strip
        (lead ++ '$' :: (body ++ '*' :: high :: low :: (front ++ new :: back))) =
          '$' :: (body ++ '*' :: (high :: low :: (front ++ [new]))) := by
      rw [text, strip_framed framed.lead behind (trimmed_between _ dollar_plain plain)]
      simp
    exact harmless_length strip framed.absent (by simp)

end Framed

end OpenLaps.Nmea
