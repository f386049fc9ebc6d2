import OpenLaps.Collectors.Nmea

/- Whatever `decode` is given it returns, and counts it under what became of it. -/
namespace OpenLaps.Nmea
open Strings

/-- Whatever it raises, `decode` catches. -/
def Contained {α : Type} (attempt : Except PyError α) : Prop :=
  ∀ error, attempt = .error error → caught error = true

namespace Contained

variable {α β : Type}

theorem ok (value : α) : Contained (.ok value) := by
  intro error raised
  cases raised

theorem refused (message : String) : Contained (.error (.valueError message) : Except PyError α) := by
  intro error raised
  cases raised
  rfl

theorem bind {attempt : Except PyError α} {next : α → Except PyError β}
    (first : Contained attempt) (later : ∀ value, Contained (next value)) :
    Contained (attempt >>= next) := by
  cases attempt with
  | ok value => exact later value
  | error reason =>
      intro error raised
      cases raised
      exact first reason rfl

theorem map {attempt : Except PyError α} (first : Contained attempt) (view : α → β) :
    Contained (attempt.map view) := by
  cases attempt with
  | ok value => exact ok (view value)
  | error reason =>
      intro error raised
      cases raised
      exact first reason rfl

theorem ite {condition : Prop} [Decidable condition] {yes no : Except PyError α}
    (first : Contained yes) (second : Contained no) :
    Contained (if condition then yes else no) := by
  split
  · exact first
  · exact second

end Contained

section Errors

variable (runtime : Runtime) (source : String) (fields : List Text)

theorem int_contained (text : Text) : Contained (runtime.int text) := by
  unfold Runtime.int
  dsimp only
  split
  · exact .refused _
  · exact .ite (.refused _) (.ok _)

theorem float_contained (text : Text) : Contained (runtime.float text) := by
  unfold Runtime.float
  dsimp only
  split
  · exact .refused _
  · refine .ite (.ok _) (.ite (.ok _) ?_)
    split
    · exact .refused _
    · exact .ok _

theorem coordinate_contained (value hemisphere : Text) (degreeDigits : Nat) :
    Contained (coordinate runtime value hemisphere degreeDigits) := by
  refine .ite (.refused _) (.bind (int_contained runtime _) fun degrees =>
    .bind (float_contained runtime _) fun minutes => .ite (.refused _) ?_)
  dsimp only
  exact .ite (.ok _) (.ite (.refused _) (.ok _))

theorem rmcFix_contained : Contained (rmcFix runtime fields) :=
  .ite (.refused _) (.bind (coordinate_contained runtime _ _ _) fun _ =>
    .bind (coordinate_contained runtime _ _ _) fun _ => .bind (float_contained runtime _) fun _ =>
    .bind (float_contained runtime _) fun _ =>
    .ite (.refused _) (.ite (.refused _) (.ite (.refused _) (.ok _))))

theorem decodeRmc_contained : Contained (decodeRmc runtime source fields) :=
  .ite (.refused _) ((rmcFix_contained runtime fields).map _)

theorem decodeGga_contained : Contained (decodeGga runtime source fields) :=
  .ite (.refused _) (.bind (int_contained runtime _) fun _ => .ite (.refused _)
    (.bind (int_contained runtime _) fun _ => .bind (float_contained runtime _) fun _ =>
    .bind (float_contained runtime _) fun _ =>
    .bind (.ite (float_contained runtime _) (.ok _) : Contained (separationOf runtime _)) fun _ =>
    .ite (.refused _) (.ite (.refused _) (.ok _))))

theorem decodeGst_contained : Contained (decodeGst runtime source fields) :=
  .ite (.refused _) (.ite (.refused _) (.bind (float_contained runtime _) fun _ =>
    .bind (float_contained runtime _) fun _ => .bind (float_contained runtime _) fun _ =>
    .ite (.refused _) (.ok _)))

theorem decodeFields_contained : Contained (decodeFields runtime source fields) :=
  .ite ((decodeGga_contained runtime source fields).map _)
    (.ite ((decodeGst_contained runtime source fields).map _)
    (.ite (.ok _) ((decodeRmc_contained runtime source fields).map _)))

theorem validatedBody_contained (text : Text) : Contained (validatedBody runtime text) := by
  unfold validatedBody
  split
  · split
    · exact .ok _
    · exact .ite (.refused _) (.ite (.refused _) (.ok _))
  · exact .refused _

theorem text_contained (sentence : Sentence) : Contained sentence.text := by
  cases sentence with
  | bytes sentence => exact .ite (.ok _) (.refused _)
  | str sentence => exact .ok _

/-- Only errors that `decode` catches can come up in it. -/
theorem readSentence_contained (sentence : Sentence) :
    Contained (readSentence runtime source sentence) :=
  .bind (text_contained sentence) fun _ => .bind (validatedBody_contained runtime _) fun _ =>
    decodeFields_contained runtime source _

end Errors

/-- The values of a sentence, none where it is malformed. -/
def valuesOf (runtime : Runtime) (source : String) (sentence : Sentence) : Values :=
  match readSentence runtime source sentence with
  | .ok (_, values) => values
  | .error _ => []

theorem decode_values (runtime : Runtime) (decoder : NmeaDecoder) (sentence : Sentence) :
    (decoder.decode runtime sentence).2 = .ok (valuesOf runtime decoder.source sentence) := by
  have contained := readSentence_contained runtime decoder.source sentence
  unfold NmeaDecoder.decode valuesOf
  cases read : readSentence runtime decoder.source sentence with
  | ok result => rfl
  | error error =>
      dsimp only
      rw [if_pos (contained error read)]

/-- Every sentence is counted once more under what became of it. -/
def NmeaDecodeStats.Balanced (stats : NmeaDecodeStats) : Prop :=
  stats.sentences = stats.rmcSentences + stats.ggaSentences + stats.gstSentences +
    stats.ignoredSentences + stats.malformedSentences

theorem decode_balanced (runtime : Runtime) {decoder : NmeaDecoder}
    (balanced : decoder.stats.Balanced) (sentence : Sentence) :
    (decoder.decode runtime sentence).1.stats.Balanced := by
  unfold NmeaDecodeStats.Balanced at *
  have contained := readSentence_contained runtime decoder.source sentence
  unfold NmeaDecoder.decode
  dsimp only
  split
  · rename_i kind values read
    cases kind <;> simp only [NmeaDecodeStats.count] <;> omega
  · rename_i error raised
    rw [if_pos (contained error raised)]
    dsimp only
    omega

/-- One `decode` after the other, and what they return. -/
def NmeaDecoder.decodeAll (runtime : Runtime) :
    NmeaDecoder → List Sentence → NmeaDecoder × List (Except PyError Values)
  | decoder, [] => (decoder, [])
  | decoder, sentence :: rest =>
      let first := decoder.decode runtime sentence
      let later := first.1.decodeAll runtime rest
      (later.1, first.2 :: later.2)

/-- Over any sequence nothing is raised and the counters add up. -/
theorem decodeAll_counts (runtime : Runtime) {decoder : NmeaDecoder}
    (balanced : decoder.stats.Balanced) (sentences : List Sentence) :
    (∀ result ∈ (decoder.decodeAll runtime sentences).2, ∃ values, result = .ok values) ∧
      (decoder.decodeAll runtime sentences).1.stats.Balanced := by
  induction sentences generalizing decoder with
  | nil => exact ⟨fun _ member => absurd member List.not_mem_nil, balanced⟩
  | cons sentence rest ih =>
      obtain ⟨returned, counted⟩ := ih (decode_balanced runtime balanced sentence)
      refine ⟨?_, counted⟩
      intro result member
      rcases List.mem_cons.mp member with here | later
      · exact ⟨_, here.trans (decode_values runtime decoder sentence)⟩
      · exact returned result later

end OpenLaps.Nmea
