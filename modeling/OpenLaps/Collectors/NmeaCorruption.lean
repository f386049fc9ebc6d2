import OpenLaps.Collectors.NmeaCounts
import OpenLaps.Collectors.NmeaFields
import OpenLaps.Collectors.NmeaFraming
import OpenLaps.Lib.Readable

/- One character of a sentence goes wrong on the line: the checksum covers every place but the
star that announces it. -/
namespace OpenLaps.Nmea
open Strings

variable {runtime : Runtime} {source : String}

namespace Framed

variable {raw lead body trail : Text} {high low new : Char}

theorem supplied_hex (framed : Framed runtime raw lead body high low trail) {char : Char}
    (ascii : isAscii char = true) (member : char ∈ [high, low]) :
    char.toUpper ∈ "0123456789ABCDEF".toList := by
  have within : char.toUpper ∈ runtime.upperText [high, low] := by
    unfold Runtime.upperText
    exact List.mem_flatMap.mpr ⟨char, member, by rw [if_pos ascii]; exact List.mem_singleton_self _⟩
  rw [framed.sum] at within
  exact mem_formatHex within

/-- The star. -/
theorem star_replaced (framed : Framed runtime raw lead body high low trail) (other : new ≠ '*') :
    readText runtime source (lead ++ '$' :: (body ++ new :: high :: low :: trail)) =
      decodeFields runtime source (joined (splitOn ',' body) new [high, low]) := by
  have comma : ',' ∉ [high, low] := fun member =>
    absurd (framed.supplied_hex (by decide) member) (by decide)
  have star : '*' ∉ [high, low] := fun member =>
    absurd (framed.supplied_hex (by decide) member) (by decide)
  have absent : '*' ∉ body ++ new :: [high, low] := by
    intro member
    rcases List.mem_append.mp member with inside | rest
    · exact framed.absent inside
    · rcases List.mem_cons.mp rest with same | behind
      · exact other same.symm
      · exact star behind
  have text : lead ++ '$' :: (body ++ new :: high :: low :: trail) =
      lead ++ ('$' :: ((body ++ [new, high]) ++ [low]) ++ trail) := by simp
  have strip : runtime.strip (lead ++ '$' :: (body ++ new :: high :: low :: trail)) =
      '$' :: (body ++ new :: [high, low]) := by
    rw [text, strip_framed framed.lead framed.trail (trimmed_between _ dollar_plain framed.last)]
    simp
  have valid : validatedBody runtime
      (runtime.strip (lead ++ '$' :: (body ++ new :: high :: low :: trail))) =
        .ok (body ++ new :: [high, low]) := by
    rw [strip, validatedBody_bare absent]
  rw [readText_body valid, splitOn_star body new comma]

end Framed

/-- One byte or one character of a sentence replaced by another. -/
inductive Replaced : Sentence → Sentence → Prop
  | bytes (front : Bytes) (old new : UInt8) (back : Bytes) (different : new ≠ old) :
      Replaced (.bytes (front ++ old :: back)) (.bytes (front ++ new :: back))
  | str (front : Text) (old new : Char) (back : Text) (different : new ≠ old) :
      Replaced (.str (front ++ old :: back)) (.str (front ++ new :: back))

/-- The sentence carries a checksum. -/
def Starred (sentence : Sentence) : Prop := ∃ text, sentence.text = .ok text ∧ '*' ∈ text

/-- It is the star that was replaced, where the type of the sentence makes data of the rest. -/
def StarSlip (runtime : Runtime) (sentence corrupted : Sentence) : Prop :=
  ∃ front new back, sentence.text = .ok (front ++ '*' :: back) ∧
    corrupted.text = .ok (front ++ new :: back) ∧ '*' ∉ front ∧ new ≠ '*' ∧
    Misread runtime (splitOn ',' ((front.dropWhile runtime.isSpace).drop 1)) new (back.take 2)

theorem asciiChar_injective {first second : UInt8} (small : first < 128) (small' : second < 128)
    (same : Char.ofNat first.toNat = Char.ofNat second.toNat) : first = second := by
  have bound : first.toNat < 128 := UInt8.lt_iff_toNat_lt.mp small
  have bound' : second.toNat < 128 := UInt8.lt_iff_toNat_lt.mp small'
  have every : ∀ number : Fin 128, (Char.ofNat number).toNat = number := by decide
  have numbers := congrArg Char.toNat same
  rw [every ⟨first.toNat, bound⟩, every ⟨second.toNat, bound'⟩] at numbers
  exact UInt8.toNat_inj.mp numbers

/-- A corrupted sentence is no text, or one with one character replaced. -/
theorem Replaced.text {sentence corrupted : Sentence} {text : Text}
    (replaced : Replaced sentence corrupted) (read : sentence.text = .ok text) :
    (∃ error, corrupted.text = .error error) ∨ ∃ front old new back,
      text = front ++ old :: back ∧ corrupted.text = .ok (front ++ new :: back) ∧ new ≠ old := by
  cases replaced with
  | str front old new back different =>
      cases read
      exact .inr ⟨front, old, new, back, rfl, rfl, different⟩
  | bytes front old new back different =>
      unfold Sentence.text at read ⊢
      dsimp only at read ⊢
      split at read
      · rename_i ascii
        cases read
        simp only [List.all_append, List.all_cons, Bool.and_eq_true, decide_eq_true_eq] at ascii ⊢
        by_cases small : new < 128
        · right
          refine ⟨front.map fun byte => Char.ofNat byte.toNat, Char.ofNat old.toNat,
            Char.ofNat new.toNat, back.map fun byte => Char.ofNat byte.toNat, by simp, ?_, ?_⟩
          · rw [if_pos ⟨ascii.1, small, ascii.2.2⟩]
            simp
          · exact fun same => different (asciiChar_injective small ascii.2.1 same)
        · left
          rw [if_neg fun all => small all.2.1]
          exact ⟨_, rfl⟩
      · cases read

theorem readSentence_text {sentence : Sentence} {text : Text} (read : sentence.text = .ok text) :
    readSentence runtime source sentence = readText runtime source text := by
  rw [readSentence, read]
  rfl

/-- Where a cut of a joined list falls. -/
theorem append_cons_cases {α : Type} {front back first second : List α} {old : α}
    (same : front ++ old :: back = first ++ second) :
    (∃ more, first = front ++ old :: more ∧ back = more ++ second) ∨
      ∃ more, front = first ++ more ∧ second = more ++ old :: back := by
  rcases List.append_eq_append_iff.mp same with ⟨more, longer, rest⟩ | ⟨more, longer, rest⟩
  · cases more with
    | nil =>
        rw [List.append_nil] at longer
        exact .inr ⟨[], by rw [longer, List.append_nil], rest.symm⟩
    | cons char more =>
        obtain ⟨rfl, tails⟩ := List.cons.inj rest
        exact .inl ⟨more, longer, tails⟩
  · exact .inr ⟨more, longer, rest⟩

namespace Framed

variable {raw lead body trail front back : Text} {high low old new : Char}

/-- Away from the star every other character is harmless. -/
theorem harmless (framed : Framed runtime raw lead body high low trail)
    (whole : raw = front ++ old :: back) (different : new ≠ old)
    (other : ¬(front = lead ++ '$' :: body ∧ old = '*' ∧ back = high :: low :: trail)) :
    Harmless runtime source raw (front ++ new :: back) := by
  rcases append_cons_cases (whole.symm.trans framed.whole) with
    ⟨more, rfl, rfl⟩ | ⟨more, rfl, rest⟩
  · have inLead := framed.lead_replaced source new
    simpa using inLead
  cases more with
  | nil =>
      obtain ⟨rfl, rfl⟩ := List.cons.inj rest
      have atDollar := framed.dollar_replaced source different
      simpa using atDollar
  | cons char more =>
      simp only [List.cons_append, List.cons.injEq] at rest
      obtain ⟨rfl, rest⟩ := rest
      rcases append_cons_cases rest.symm with ⟨later, rfl, rfl⟩ | ⟨later, rfl, behind⟩
      · have inBody := framed.body_replaced source different
        simpa using inBody
      · rcases later with - | ⟨star, - | ⟨char, - | ⟨char', later⟩⟩⟩
        · obtain ⟨rfl, rfl⟩ := List.cons.inj behind
          exact absurd ⟨by simp, rfl, rfl⟩ other
        · simp only [List.cons_append, List.nil_append, List.cons.injEq] at behind
          obtain ⟨rfl, rfl, rfl⟩ := behind
          have atHigh := framed.high_replaced source new
          simpa using atHigh
        · simp only [List.cons_append, List.nil_append, List.cons.injEq] at behind
          obtain ⟨rfl, rfl, rfl, rfl⟩ := behind
          have atLow := framed.low_replaced source new
          simpa using atLow
        · simp only [List.cons_append, List.cons.injEq] at behind
          obtain ⟨rfl, rfl, rfl, rfl⟩ := behind
          have inTrail := framed.trail_replaced source new
          simpa using inTrail

end Framed

theorem starred_strip {text : Text} (member : '*' ∈ text) : '*' ∈ runtime.strip text := by
  obtain ⟨lead, trail, whole, before, after, -⟩ := exists_frame runtime text
  rw [whole] at member
  rcases List.mem_append.mp member with first | rest
  · exact absurd first (before.absent star_plain)
  · rcases List.mem_append.mp rest with inside | last
    · exact inside
    · exact absurd last (after.absent star_plain)

/-- The values of a text, none where it is malformed. -/
def textValues (runtime : Runtime) (source : String) (text : Text) : Values :=
  match readText runtime source text with
  | .ok (_, values) => values
  | .error _ => []

theorem valuesOf_text {sentence : Sentence} {text : Text} (read : sentence.text = .ok text) :
    valuesOf runtime source sentence = textValues runtime source text := by
  rw [valuesOf, readSentence_text read]
  rfl

theorem Harmless.values {raw corrupted : Text} (harmless : Harmless runtime source raw corrupted) :
    textValues runtime source corrupted = [] ∨
      textValues runtime source corrupted = textValues runtime source raw := by
  unfold textValues
  rcases harmless with ⟨error, refused⟩ | same
  · left
    rw [refused]
  · right
    rw [same]

/-- Without the star there are other values, unless the sentence is not misread. -/
theorem SameUnless.values {condition : Prop} {values : Values} {text : Text}
    (outcome : SameUnless condition values ((readText runtime source text).map Prod.snd)) :
    (textValues runtime source text = [] ∨ textValues runtime source text = values) ↔
      ¬condition := by
  unfold textValues
  constructor
  · rintro yielded holds
    obtain ⟨values', given, some, other⟩ := outcome.1 holds
    cases read : readText runtime source text with
    | error error =>
        rw [read] at given
        cases given
    | ok pair =>
        rw [read] at given yielded
        cases given
        exact yielded.elim some other
  · intro fails
    cases read : readText runtime source text with
    | error error => exact .inl rfl
    | ok pair =>
        have same := outcome.2 fails pair.2 (by rw [read]; rfl)
        exact same

/-- A character of an accepted sentence replaced: nothing new comes of it, but for a star that
leaves the checksum to be read as data. -/
theorem text_corrupted {sentence corrupted : Sentence} {front back : Text} {old new : Char}
    (read : sentence.text = .ok (front ++ old :: back))
    (read' : corrupted.text = .ok (front ++ new :: back)) (different : new ≠ old)
    (star : '*' ∈ front ++ old :: back) (some : valuesOf runtime source sentence ≠ []) :
    (valuesOf runtime source corrupted = [] ∨
      valuesOf runtime source corrupted = valuesOf runtime source sentence) ↔
        ¬StarSlip runtime sentence corrupted := by
  rw [valuesOf_text read, valuesOf_text read'] at *
  cases body? : validatedBody runtime (runtime.strip (front ++ old :: back)) with
  | error error =>
      obtain ⟨error', refused⟩ : ∃ error,
          readText runtime source (front ++ old :: back) = .error error := readText_error body?
      rw [textValues, refused] at some
      exact absurd rfl some
  | ok body =>
    obtain ⟨lead, high, low, trail, framed⟩ := Framed.exists_of_valid body? (starred_strip star)
    cases fields? : decodeFields runtime source (splitOn ',' body) with
    | error error =>
        rw [textValues, readText_body body?, fields?] at some
        exact absurd rfl some
    | ok pair =>
      have values : textValues runtime source (front ++ old :: back) = pair.2 := by
        rw [textValues, readText_body body?, fields?]
      rw [values] at some ⊢
      have slip (replacement : Char) (other : replacement ≠ '*') :=
        decodeFields_star replacement fields? some (show [high, low].length = 2 from rfl)
      have before : '*' ∉ lead ++ '$' :: body := by
        simp [framed.lead.absent star_plain, framed.absent]
      have inner : ((lead ++ '$' :: body).dropWhile runtime.isSpace).drop 1 = body := by
        rw [List.dropWhile_append_of_pos framed.lead, List.dropWhile_cons_of_neg (by simp [dollar_plain])]
        rfl
      constructor
      · rintro yielded ⟨front', new', back', same, same', absent, other, misread⟩
        rw [read] at same
        rw [read'] at same'
        have whole : lead ++ '$' :: body ++ '*' :: high :: low :: trail = front' ++ '*' :: back' := by
          rw [← Except.ok.inj same, framed.whole]
          simp
        obtain ⟨rfl, rfl⟩ := Text.split_at_separator before absent whole
        rw [inner] at misread
        rw [Except.ok.inj same'] at yielded
        have text : lead ++ '$' :: body ++ new' :: high :: low :: trail =
            lead ++ '$' :: (body ++ new' :: high :: low :: trail) := by simp
        have outcome := slip new' other
        rw [← framed.star_replaced other, ← text] at outcome
        exact outcome.values.mp yielded misread
      · intro fine
        by_cases atStar : front = lead ++ '$' :: body ∧ old = '*' ∧ back = high :: low :: trail
        · obtain ⟨rfl, rfl, rfl⟩ := atStar
          have text : lead ++ '$' :: body ++ new :: high :: low :: trail =
              lead ++ '$' :: (body ++ new :: high :: low :: trail) := by simp
          have outcome := slip new different
          rw [← framed.star_replaced different, ← text] at outcome
          refine outcome.values.mpr fun misread => fine
            ⟨_, new, _, read, read', before, different, ?_⟩
          rw [inner]
          exact misread
        · have harmless : Harmless runtime source (front ++ old :: back) (front ++ new :: back) :=
            framed.harmless rfl different atStar
          rw [← values]
          exact harmless.values

/-- Over any sequence nothing is raised and the counters add up; and a replaced character of a
sentence with a checksum yields nothing or the same values, exactly if it is no star whose
checksum is then read as data. -/
theorem corruption_detected (runtime : Runtime) :
    (∀ sourceName device sentences,
      let run := (⟨sourceName, device, {}⟩ : NmeaDecoder).decodeAll runtime sentences
      (∀ result ∈ run.2, ∃ values, result = .ok values) ∧ run.1.stats.Balanced) ∧
    ∀ (decoder : NmeaDecoder) (sentence corrupted : Sentence) (values : Values),
      (decoder.decode runtime sentence).2 = .ok values → values ≠ [] → Starred sentence →
        Replaced sentence corrupted →
          (((decoder.decode runtime corrupted).2 = .ok [] ∨
            (decoder.decode runtime corrupted).2 = .ok values) ↔
              ¬StarSlip runtime sentence corrupted) := by
  constructor
  · intro sourceName device sentences
    have fresh : NmeaDecodeStats.Balanced {} := by simp [NmeaDecodeStats.Balanced]
    exact decodeAll_counts runtime fresh sentences
  · intro decoder sentence corrupted values given some starred replaced
    rw [decode_values, Except.ok.injEq] at given
    rw [decode_values, Except.ok.injEq, Except.ok.injEq, ← given]
    rw [← given] at some
    obtain ⟨text, read, star⟩ := starred
    rcases replaced.text read with ⟨error, refused⟩ | ⟨front, old, new, back, rfl, read', different⟩
    · have nothing : valuesOf runtime decoder.source corrupted = [] := by
        rw [valuesOf, readSentence, refused]
        rfl
      refine iff_of_true (.inl nothing) ?_
      rintro ⟨front, new, back, -, read', -⟩
      rw [refused] at read'
      cases read'
    · exact text_corrupted read read' different star some

def activeFix : Text := "$GPRMC,000000.00,A,5130.0000,N,00007.5000,W,0.00,90.0,010126,,,A".toList

/-- A fix in mode `A` comes out in a mode with the checksum in it. -/
theorem star_makes_mode :
    let decoder : NmeaDecoder := ⟨"gnss", "um980", {}⟩
    let decoded (mode : String) : Values := rmcValues decoder.source
      ⟨.finite (103 / 2), .finite (-1 / 8), .finite 0, .finite 90⟩ mode.toList
    let sum := formatHex 2 (checksum (activeFix.drop 1))
    Replaced (.str (activeFix ++ '*' :: sum)) (.str (activeFix ++ '+' :: sum)) ∧
      (decoder.decode plainRuntime (.str (activeFix ++ '*' :: sum))).2 = .ok (decoded "A") ∧
      (decoder.decode plainRuntime (.str (activeFix ++ '+' :: sum))).2 = .ok (decoded "A+44") ∧
      decoded "A+44" ≠ [] ∧ decoded "A+44" ≠ decoded "A" := by
  intro decoder decoded sum
  exact ⟨.str _ _ _ _ (by decide), by decide +kernel, by decide +kernel, by decide,
    fun same => absurd (rmcValues_injective _ same) (by decide)⟩

/-- Another character in place of the dollar yields nothing, or the fix. -/
theorem dollar_detected :
    let decoder : NmeaDecoder := ⟨"gnss", "um980", {}⟩
    let values := rmcValues decoder.source
      ⟨.finite (103 / 2), .finite (-1 / 8), .finite 0, .finite 90⟩ ['A']
    let rest := activeFix.drop 1 ++ ['*', '4', '4']
    (decoder.decode plainRuntime (.str ('#' :: rest))).2 = .ok [] ∨
      (decoder.decode plainRuntime (.str ('#' :: rest))).2 = .ok values := by
  intro decoder values rest
  refine ((corruption_detected plainRuntime).2 decoder (.str ('$' :: rest)) (.str ('#' :: rest))
    values (by decide +kernel) (by decide) ⟨'$' :: rest, rfl, by decide⟩
    (.str [] '$' '#' rest (by decide))).mpr ?_
  rintro ⟨front, new, back, same, same', -⟩
  cases front with
  | nil => exact absurd (List.cons.inj (Except.ok.inj same)).1 (by decide)
  | cons first more =>
      have dollar := (List.cons.inj (Except.ok.inj same)).1
      have hash := (List.cons.inj (Except.ok.inj same')).1
      exact absurd (dollar.trans hash.symm) (by decide)

end OpenLaps.Nmea
