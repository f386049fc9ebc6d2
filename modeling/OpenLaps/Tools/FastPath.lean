import OpenLaps.Tools.LineProtocol

/- The simple path of `parse_line_protocol` against the complete one. The simple path is
blind to quotes and to empty keys. -/
namespace OpenLaps.LineProtocol

/-- An even number of quotes. -/
def Balanced (text : Text) : Prop := text.count '"' % 2 = 0

instance (text : Text) : Decidable (Balanced text) := inferInstanceAs (Decidable (_ = _))

/-- A key/value pair whose first equals sign ends a key for both paths. -/
def Tidy (part : Text) : Prop :=
  Balanced part ∧ ('=' ∈ part → keyOf part ≠ [] ∧ Balanced (keyOf part))

instance (part : Text) : Decidable (Tidy part) := inferInstanceAs (Decidable (_ ∧ (_ → _)))

/-- Series, fields and timestamp of a text with two spaces. -/
def sectionsOf (text : Text) : Text × Text × Text := (plainSections text).getD ([], [], [])

def tagParts (text : Text) : List Text := ((sectionsOf text).1.splitOn ',').drop 1

def fieldParts (text : Text) : List Text := (sectionsOf text).2.1.splitOn ','

/-- Quotes and empty keys do not come in the way of plain splits. -/
structure Plain (text : Text) : Prop where
  series : Balanced (sectionsOf text).1
  timestamp : Balanced (sectionsOf text).2.2
  tags : ∀ part ∈ tagParts text, Tidy part
  fields : ∀ part ∈ fieldParts text, Tidy part

@[simp] theorem splitOn_nil (separator : Char) : ([] : Text).splitOn separator = [[]] :=
  List.splitOn_nil separator

theorem splitOn_cons (separator character : Char) (rest : Text) :
    (character :: rest).splitOn separator =
      if character = separator then [] :: rest.splitOn separator
      else extend character (rest.splitOn separator) := by
  rw [List.splitOn_cons_eq_if_modifyHead]
  cases parts : rest.splitOn separator with
  | nil => exact absurd parts (List.splitOn_ne_nil separator rest)
  | cons part parts => simp [extend]

@[simp] theorem length_extend (character : Char) {parts : List Text} (some : parts ≠ []) :
    (extend character parts).length = parts.length := by
  cases parts <;> simp_all [extend]

/-- Without a backslash the loop of `_split_unescaped` is never in an escape. -/
theorem splitFrom_cons {separator character : Char} {rest : Text} (quoted inQuotes : Bool)
    (left : Option Nat) (plain : character ≠ '\\') :
    splitFrom separator quoted false inQuotes left (character :: rest) =
      if quoted && character = '"' then
        (splitFrom separator quoted false (!inQuotes) left rest).map (extend character)
      else if character = separator && !inQuotes && left ≠ some 0 then
        (splitFrom separator quoted false inQuotes (left.map (· - 1)) rest).map ([] :: ·)
      else (splitFrom separator quoted false inQuotes left rest).map (extend character) := by
  rw [splitFrom, if_neg plain]

/-- Unquoted splitting without a backslash is a plain split. -/
theorem splitFrom_unquoted {separator : Char} {text : Text} (plain : '\\' ∉ text) :
    splitFrom separator false false false none text = some (text.splitOn separator) := by
  induction text with
  | nil => simp [splitFrom]
  | cons character rest ih =>
    rw [List.mem_cons, not_or] at plain
    rw [splitFrom_cons false false none (Ne.symm plain.1), splitOn_cons]
    by_cases here : character = separator <;> simp [here, ih plain.2]

/-- Whether a text leaves the loop on the other side of the quotes. -/
def odd (text : Text) : Bool := text.count '"' % 2 = 1

theorem odd_eq_false (text : Text) : odd text = false ↔ Balanced text := by
  simp [odd, Balanced]

@[simp] theorem odd_nil : odd [] = false := rfl

theorem odd_cons (character : Char) (rest : Text) :
    odd (character :: rest) = (decide (character = '"') ^^ odd rest) := by
  by_cases quote : character = '"'
  · have parity : rest.count '"' % 2 = 0 ∨ rest.count '"' % 2 = 1 := by omega
    simp only [odd, quote, List.count_cons_self]
    cases parity with
    | inl even => simp [even, Nat.add_mod]
    | inr odd => simp [odd, Nat.add_mod]
  · simp [odd, quote, List.count_cons_of_ne]

@[simp] theorem odd_append (first second : Text) :
    odd (first ++ second) = (odd first ^^ odd second) := by
  induction first with
  | nil => simp
  | cons character first ih => simp [odd_cons, ih]

/-- A text in front of the part that a split is at. -/
def prepend (text : Text) (parts : List Text) : List Text := text.foldr extend parts

@[simp] theorem prepend_cons (character : Char) (text : Text) (parts : List Text) :
    prepend (character :: text) parts = extend character (prepend text parts) := rfl

@[simp] theorem prepend_part (text part : Text) (parts : List Text) :
    prepend text (part :: parts) = (text ++ part) :: parts := by
  induction text with
  | nil => rfl
  | cons character text ih => simp [ih, extend]

/-- The loop over a text without the separator. -/
theorem splitFrom_append {separator : Char} {text : Text} (inQuotes : Bool) (left : Option Nat)
    (rest : Text) (plain : '\\' ∉ text) (whole : separator ∉ text) :
    splitFrom separator true false inQuotes left (text ++ rest) =
      (splitFrom separator true false (inQuotes ^^ odd text) left rest).map (prepend text) := by
  induction text generalizing inQuotes with
  | nil =>
    have same : prepend [] = id := rfl
    simp [same]
  | cons character text ih =>
    rw [List.mem_cons, not_or] at plain whole
    have step : prepend (character :: text) = extend character ∘ prepend text := rfl
    rw [List.cons_append, splitFrom_cons true inQuotes left (Ne.symm plain.1), odd_cons, step]
    by_cases quote : character = '"'
    · simp [quote, ih (!inQuotes) plain.2 whole.2]
    · simp [quote, Ne.symm whole.1, ih inQuotes plain.2 whole.2]

theorem splitFrom_whole {separator : Char} {text : Text} (inQuotes : Bool) (left : Option Nat)
    (plain : '\\' ∉ text) (whole : separator ∉ text) :
    splitFrom separator true false inQuotes left text =
      if inQuotes ^^ odd text then none else some [text] := by
  have parts := splitFrom_append inQuotes left [] plain whole
  rw [List.append_nil] at parts
  by_cases inside : (inQuotes ^^ odd text) = true <;> simp [parts, splitFrom, inside]

/-- Three parts come out where every section has an even number of quotes. -/
theorem splitSections_eq {series fieldText timestampText : Text}
    (plain : '\\' ∉ series ∧ '\\' ∉ fieldText ∧ '\\' ∉ timestampText)
    (whole : ' ' ∉ series ∧ ' ' ∉ fieldText ∧ ' ' ∉ timestampText) :
    splitSections (series ++ ' ' :: (fieldText ++ ' ' :: timestampText)) =
      if odd series || odd fieldText || odd timestampText then none
      else some (series, fieldText, timestampText) := by
  have space : ' ' ≠ '\\' := by decide
  simp only [splitSections, splitUnescaped, splitFrom_append _ _ _ plain.1 whole.1,
    splitFrom_cons _ _ _ space, splitFrom_append _ _ _ plain.2.1 whole.2.1,
    splitFrom_whole _ _ plain.2.2 whole.2.2]
  cases odd series <;> cases odd fieldText <;> cases odd timestampText <;> simp [extend]

/-- After the last split the rest is one part, whatever is in it. -/
theorem splitFrom_spent {separator : Char} {text : Text} (inQuotes : Bool)
    (plain : '\\' ∉ text) :
    splitFrom separator true false inQuotes (some 0) text =
      if inQuotes ^^ odd text then none else some [text] := by
  induction text generalizing inQuotes with
  | nil => cases inQuotes <;> simp [splitFrom]
  | cons character rest ih =>
    rw [List.mem_cons, not_or] at plain
    rw [splitFrom_cons true inQuotes (some 0) (Ne.symm plain.1), odd_cons]
    by_cases quote : character = '"'
    · cases inQuotes <;> cases parity : odd rest <;>
        simp [quote, ih _ plain.2, parity, extend]
    · cases inQuotes <;> cases parity : odd rest <;>
        simp [quote, ih _ plain.2, parity, extend]

/-- What one character does to a quoted split that succeeds. -/
theorem splitFrom_step {separator character : Char} {text : Text} {inQuotes : Bool}
    {left : Option Nat} {parts : List Text} (plain : character ≠ '\\')
    (split : splitFrom separator true false inQuotes left (character :: text) = some parts) :
    (character = '"' ∧ ∃ later, parts = extend character later ∧
      splitFrom separator true false (!inQuotes) left text = some later) ∨
    (character ≠ '"' ∧ character = separator ∧ inQuotes = false ∧ ∃ later, parts = [] :: later ∧
      splitFrom separator true false inQuotes (left.map (· - 1)) text = some later) ∨
    (character ≠ '"' ∧ (character = separator → left = none → inQuotes = true) ∧
      ∃ later, parts = extend character later ∧
        splitFrom separator true false inQuotes left text = some later) := by
  rw [splitFrom_cons true inQuotes left plain] at split
  by_cases quote : character = '"'
  · simp only [quote, Bool.and_self, decide_true, if_true, Option.map_eq_some_iff] at split
    obtain ⟨later, split, rfl⟩ := split
    exact .inl ⟨quote, later, by rw [quote], split⟩
  · simp only [quote, decide_false, Bool.and_false, Bool.false_eq_true, if_false] at split
    by_cases here : (decide (character = separator) && !inQuotes && decide (left ≠ some 0)) = true
    · rw [if_pos here, Option.map_eq_some_iff] at split
      obtain ⟨later, split, rfl⟩ := split
      simp only [Bool.and_eq_true, decide_eq_true_eq, Bool.not_eq_true'] at here
      exact .inr (.inl ⟨quote, here.1.1, here.1.2, later, rfl, split⟩)
    · rw [if_neg here, Option.map_eq_some_iff] at split
      obtain ⟨later, split, rfl⟩ := split
      refine .inr (.inr ⟨quote, ?_, later, rfl, split⟩)
      intro same unlimited
      simpa [same, unlimited] using here

theorem splitFrom_nil {separator : Char} {inQuotes : Bool} {left : Option Nat} {parts : List Text}
    (split : splitFrom separator true false inQuotes left [] = some parts) :
    inQuotes = false ∧ parts = [[]] := by
  cases inQuotes with
  | true => simp [splitFrom] at split
  | false => simpa [splitFrom, eq_comm] using split

/-- The parts of a quoted split: a quote opens and closes in one part. -/
theorem splitFrom_parts {separator : Char} {text : Text} {inQuotes : Bool} {left : Option Nat}
    {parts : List Text} (plain : '\\' ∉ text)
    (split : splitFrom separator true false inQuotes left text = some parts) :
    odd text = inQuotes ∧ ∃ first rest, parts = first :: rest ∧ odd first = inQuotes ∧
      ∀ part ∈ rest, odd part = false := by
  induction text generalizing inQuotes left parts with
  | nil =>
    obtain ⟨rfl, rfl⟩ := splitFrom_nil split
    simp
  | cons character text ih =>
    rw [List.mem_cons, not_or] at plain
    obtain ⟨quote, later, rfl, below⟩ | ⟨other, -, outside, later, rfl, below⟩ |
      ⟨other, -, later, rfl, below⟩ := splitFrom_step (Ne.symm plain.1) split
    · obtain ⟨parity, first, rest, rfl, head, tail⟩ := ih plain.2 below
      exact ⟨by simp [odd_cons, quote, parity], character :: first, rest, rfl,
        by simp [odd_cons, quote, head], tail⟩
    · obtain ⟨parity, first, rest, rfl, head, tail⟩ := ih plain.2 below
      exact ⟨by simp [odd_cons, other, parity], [], first :: rest, rfl, by simp [outside],
        by simpa [outside] using ⟨outside ▸ head, tail⟩⟩
    · obtain ⟨parity, first, rest, rfl, head, tail⟩ := ih plain.2 below
      exact ⟨by simp [odd_cons, other, parity], character :: first, rest, rfl,
        by simp [odd_cons, other, head], tail⟩

/-- A quoted split has no more parts than a plain one, and as many only if it is one. -/
theorem splitFrom_plain {separator : Char} {text : Text} {inQuotes : Bool} {parts : List Text}
    (plain : '\\' ∉ text) (mark : separator ≠ '"')
    (split : splitFrom separator true false inQuotes none text = some parts) :
    parts.length ≤ (text.splitOn separator).length ∧
      ((text.splitOn separator).length ≤ parts.length → parts = text.splitOn separator) := by
  induction text generalizing inQuotes parts with
  | nil =>
    obtain ⟨rfl, rfl⟩ := splitFrom_nil split
    simp
  | cons character text ih =>
    rw [List.mem_cons, not_or] at plain
    have filled := List.splitOn_ne_nil separator text
    have nonempty {quoted : Bool} {later : List Text}
        (split : splitFrom separator true false quoted none text = some later) : later ≠ [] := by
      obtain ⟨_, first, rest, same, _⟩ := splitFrom_parts plain.2 split
      simp [same]
    rw [splitOn_cons]
    obtain ⟨quote, later, rfl, below⟩ | ⟨other, here, outside, later, rfl, below⟩ |
      ⟨other, covered, later, rfl, below⟩ := splitFrom_step (Ne.symm plain.1) split
    · have step := ih plain.2 below
      have apart : character ≠ separator := fun same => mark (same ▸ quote)
      rw [if_neg apart, length_extend character filled, length_extend character (nonempty below)]
      exact ⟨step.1, fun many => by rw [step.2 many]⟩
    · have step := ih plain.2 below
      rw [if_pos here, List.length_cons, List.length_cons]
      exact ⟨by omega, fun many => by rw [step.2 (by omega)]⟩
    · have step := ih plain.2 below
      by_cases here : character = separator
      · rw [if_pos here, List.length_cons, length_extend character (nonempty below)]
        exact ⟨by omega, by omega⟩
      · rw [if_neg here, length_extend character filled, length_extend character (nonempty below)]
        exact ⟨step.1, fun many => by rw [step.2 many]⟩

theorem splitFrom_mem {separator : Char} {text : Text} {inQuotes : Bool} {left : Option Nat}
    {parts : List Text} (plain : '\\' ∉ text)
    (split : splitFrom separator true false inQuotes left text = some parts) :
    ∀ part ∈ parts, '\\' ∉ part := by
  induction text generalizing inQuotes left parts with
  | nil =>
    obtain ⟨rfl, rfl⟩ := splitFrom_nil split
    simp
  | cons character text ih =>
    rw [List.mem_cons, not_or] at plain
    have extended {later : List Text} (clean : ∀ part ∈ later, '\\' ∉ part) :
        ∀ part ∈ extend character later, '\\' ∉ part := by
      cases later <;> simp_all [extend]
    obtain ⟨quote, later, rfl, below⟩ | ⟨other, here, outside, later, rfl, below⟩ |
      ⟨other, covered, later, rfl, below⟩ := splitFrom_step (Ne.symm plain.1) split
    · exact extended (ih plain.2 below)
    · simpa using ih plain.2 below
    · exact extended (ih plain.2 below)

/-- Where no separator is between quotes, a quoted split is the plain one. -/
theorem splitFrom_balanced {separator : Char} {text first : Text} {rest : List Text}
    {inQuotes : Bool} (plain : '\\' ∉ text) (mark : separator ≠ '"')
    (parts : text.splitOn separator = first :: rest) (head : odd first = inQuotes)
    (tail : ∀ part ∈ rest, odd part = false) :
    splitFrom separator true false inQuotes none text = some (text.splitOn separator) := by
  induction text generalizing first rest inQuotes with
  | nil =>
    simp only [splitOn_nil, List.cons.injEq] at parts
    simp [splitFrom, ← head, ← parts.1]
  | cons character text ih =>
    rw [List.mem_cons, not_or] at plain
    rw [splitFrom_cons true inQuotes none (Ne.symm plain.1)]
    rw [splitOn_cons] at parts ⊢
    cases later : text.splitOn separator with
    | nil => exact absurd later (List.splitOn_ne_nil separator text)
    | cons next others =>
      by_cases here : character = separator
      · rw [later, if_pos here, List.cons.injEq] at parts
        have outside : inQuotes = false := by rw [← head, ← parts.1, odd_nil]
        rw [← parts.2] at tail
        have step := ih plain.2 later (tail next (by simp)) fun part member => tail part (by simp [member])
        simp [here, mark, outside, step, later]
      · rw [later, if_neg here, extend, List.cons.injEq] at parts
        rw [← parts.2] at tail
        rw [← parts.1, odd_cons] at head
        have step := ih plain.2 later rfl tail
        by_cases quote : character = '"'
        · have turned : odd next = !inQuotes := by simp [← head, quote]
          simp [quote, mark.symm, ← turned, step, later]
        · have same : odd next = inQuotes := by simpa [quote] using head
          simp [quote, here, ← same, step, later]

theorem keyOf_append {key value : Text} (whole : '=' ∉ key) :
    keyOf (key ++ '=' :: value) = key := by
  induction key with
  | nil => simp [keyOf]
  | cons character key ih =>
    rw [List.mem_cons, not_or] at whole
    simpa [keyOf, Ne.symm whole.1] using ih whole.2

theorem plainPair_append {key value : Text} (whole : '=' ∉ key) :
    plainPair (key ++ '=' :: value) = some (key, value) := by
  have rest : (key ++ '=' :: value).dropWhile (· ≠ '=') = '=' :: value := by
    induction key with
    | nil => simp
    | cons character key ih =>
      rw [List.mem_cons, not_or] at whole
      simpa [Ne.symm whole.1] using ih whole.2
  rw [plainPair, rest, keyOf_append whole]

theorem plainPair_none {part : Text} (whole : '=' ∉ part) : plainPair part = none := by
  have rest : part.dropWhile (· ≠ '=') = [] := by
    rw [List.dropWhile_eq_nil_iff]
    intro character member
    simpa using fun same : character = '=' => whole (same ▸ member)
  rw [plainPair, rest]

/-- A part with an equals sign is a key, the sign and a value. -/
theorem eq_append_of_mem {part : Text} (mark : '=' ∈ part) :
    ∃ key value, part = key ++ '=' :: value ∧ '=' ∉ key := by
  obtain ⟨key, value, whole, same, -⟩ := List.exists_erase_eq mark
  exact ⟨key, value, same, whole⟩

theorem splitPair_append {key value : Text} (plain : '\\' ∉ key ∧ '\\' ∉ value)
    (whole : '=' ∉ key) (balanced : Balanced key) (filled : key ≠ []) :
    splitPair (key ++ '=' :: value) = if odd value then none else some (key, value) := by
  have mark : '=' ≠ '\\' := by decide
  simp only [splitPair, splitUnescaped, splitFrom_append _ _ _ plain.1 whole,
    splitFrom_cons _ _ _ mark, (odd_eq_false key).2 balanced]
  cases parity : odd value <;> simp [splitFrom_spent _ plain.2, parity, filled]

theorem splitPair_none {part : Text} (plain : '\\' ∉ part) (whole : '=' ∉ part) :
    splitPair part = none := by
  simp only [splitPair, splitUnescaped, splitFrom_whole _ _ plain whole]
  cases odd part <;> simp

theorem splitPair_some {part key value : Text} (plain : '\\' ∉ part)
    (split : splitPair part = some (key, value)) :
    Balanced part ∧ Balanced key ∧ key ≠ [] ∧ '\\' ∉ key := by
  simp only [splitPair, splitUnescaped, Option.bind_eq_bind, Option.bind_eq_some_iff] at split
  obtain ⟨parts, parted, split⟩ := split
  have clean := splitFrom_mem plain parted
  obtain ⟨parity, first, rest, rfl, head, -⟩ := splitFrom_parts plain parted
  match rest with
  | [] => simp at split
  | [second] =>
    by_cases filled : first = []
    · simp [filled] at split
    · have key' : first = key := by simp_all
      exact ⟨(odd_eq_false part).1 parity, (odd_eq_false key).1 (key' ▸ head), key' ▸ filled,
        clean key (by simp [key'])⟩
  | _ :: _ :: _ => simp at split

theorem plainPair_some {part key value : Text} (split : plainPair part = some (key, value)) :
    part = key ++ '=' :: value ∧ '=' ∉ key := by
  by_cases mark : '=' ∈ part
  · obtain ⟨first, second, rfl, whole⟩ := eq_append_of_mem mark
    rw [plainPair_append whole, Option.some.injEq, Prod.mk.injEq] at split
    rw [← split.1, ← split.2]
    exact ⟨rfl, whole⟩
  · simp [plainPair_none mark] at split

theorem pair_tidy {part : Text} (plain : '\\' ∉ part) (tidy : Tidy part) :
    splitPair part = plainPair part := by
  by_cases mark : '=' ∈ part
  · obtain ⟨key, value, rfl, whole⟩ := eq_append_of_mem mark
    have good := tidy.2 mark
    rw [keyOf_append whole] at good
    have slashes : '\\' ∉ key ∧ '\\' ∉ value := by simpa [not_or] using plain
    have even : odd (key ++ '=' :: value) = false := (odd_eq_false _).2 tidy.1
    have parity : odd value = false := by
      simpa [odd_cons, (odd_eq_false key).2 good.2] using even
    rw [splitPair_append slashes whole good.2 good.1, plainPair_append whole, parity]
    rfl
  · rw [splitPair_none plain mark, plainPair_none mark]

theorem unescape_plain {text : Text} (plain : '\\' ∉ text) : unescape text = some text := by
  induction text with
  | nil => rfl
  | cons character text ih =>
    rw [List.mem_cons, not_or] at plain
    simpa [unescape, unescapeFrom, Ne.symm plain.1] using ih plain.2

namespace Reading

variable {ν : Type}

theorem collect_congr {read read' : Text → Option (Text × ν)} {parts : List Text}
    (same : ∀ part ∈ parts, read part = read' part) : collect read parts = collect read' parts := by
  unfold collect
  generalize (Dict.empty : Dict Text ν) = dict
  induction parts generalizing dict with
  | nil => rfl
  | cons part parts ih =>
    simp only [List.foldlM_cons, same part (by simp)]
    congr 1
    funext next
    exact ih (fun other member => same other (by simp [member])) next

theorem mem_keys_set (dict : Dict Text ν) (key other : Text) (value : ν) :
    other ∈ (dict.set key value).keys ↔ other = key ∨ other ∈ dict.keys := by
  rw [← not_iff_not, not_or, ← Dict.get?_eq_none, ← Dict.get?_eq_none, Dict.get?_set]
  by_cases same : key = other
  · simp [same]
  · simp [same, Ne.symm same]

/-- The keys of a loop that succeeds, and that it makes at most one entry a part. -/
theorem collect_from {read : Text → Option (Text × ν)} {parts : List Text}
    {before dict : Dict Text ν}
    (collected : parts.foldlM (fun dict part => do
      let (key, value) ← read part
      return dict.set key value) before = some dict) :
    (∀ key, key ∈ dict.keys ↔
      key ∈ before.keys ∨ ∃ part ∈ parts, ∃ value, read part = some (key, value)) ∧
      dict.entries.length ≤ before.entries.length + parts.length ∧
      ∀ part ∈ parts, ∃ entry, read part = some entry := by
  induction parts generalizing before with
  | nil =>
    have same : before = dict := by simpa using collected
    simp [same]
  | cons part parts ih =>
    rw [List.foldlM_cons] at collected
    simp only [Option.bind_eq_bind, Option.bind_eq_some_iff, Option.pure_def,
      Option.some.injEq] at collected
    obtain ⟨next, ⟨⟨key, value⟩, entry, rfl⟩, collected⟩ := collected
    obtain ⟨keys, length, readable⟩ := ih collected
    have longer := Dict.length_assign before.entries key value
    have total : dict.entries.length ≤ before.entries.length + 1 + parts.length :=
      length.trans (Nat.add_le_add_right longer parts.length)
    refine ⟨fun other => ?_, ?_, ?_⟩
    · rw [keys, mem_keys_set]
      simp only [List.mem_cons, exists_eq_or_imp, entry, Option.some.injEq, Prod.mk.injEq,
        exists_and_left, exists_eq', and_true]
      tauto
    · rw [List.length_cons]
      omega
    · simpa [entry] using readable

theorem collect_spec {read : Text → Option (Text × ν)} {parts : List Text} {dict : Dict Text ν}
    (collected : collect read parts = some dict) :
    (∀ key, key ∈ dict.keys ↔ ∃ part ∈ parts, ∃ value, read part = some (key, value)) ∧
      dict.entries.length ≤ parts.length ∧ ∀ part ∈ parts, ∃ entry, read part = some entry := by
  simpa [Dict.empty, Dict.keys] using collect_from collected

/-- The two paths read a tidy part alike. -/
theorem readPair_tidy {part : Text} {readValue readValue' : Text → Option ν}
    (same : ∀ value, '\\' ∉ value → readValue value = readValue' value) (plain : '\\' ∉ part)
    (tidy : Tidy part) :
    simplePath.readPair readValue part = completePath.readPair readValue' part := by
  simp only [readPair, simplePath, completePath, pair_tidy plain tidy]
  cases split : plainPair part with
  | none => rfl
  | some pair =>
    have parts := (plainPair_some split).1
    rw [parts] at plain
    have clean : '\\' ∉ pair.1 ∧ '\\' ∉ pair.2 := by simpa [not_or] using plain
    simp [unescape_plain clean.1, same pair.2 clean.2]

/-- A pair that the complete path reads. -/
theorem complete_readPair {part key : Text} {readValue : Text → Option ν} {value : ν}
    (plain : '\\' ∉ part) (read : completePath.readPair readValue part = some (key, value)) :
    Balanced part ∧ Balanced key ∧ key ≠ [] := by
  simp only [readPair, completePath, Option.bind_eq_bind, Option.bind_eq_some_iff,
    Option.pure_def, Option.some.injEq, Prod.mk.injEq] at read
  obtain ⟨⟨raw, text⟩, split, named, unescaped, -, -, same, -⟩ := read
  obtain ⟨even, evenKey, filled, clean⟩ := splitPair_some plain split
  rw [unescape_plain clean, Option.some.injEq] at unescaped
  rw [← same, ← unescaped]
  exact ⟨even, evenKey, filled⟩

/-- A pair that the simple path reads. -/
theorem simple_readPair {part key : Text} {readValue : Text → Option ν} {value : ν}
    (read : simplePath.readPair readValue part = some (key, value)) : key = keyOf part := by
  simp only [readPair, simplePath, Option.bind_eq_bind, Option.bind_eq_some_iff,
    Option.pure_def, Option.some.injEq, Prod.mk.injEq] at read
  obtain ⟨⟨raw, text⟩, split, named, unescaped, -, -, same, -⟩ := read
  obtain ⟨parts, whole⟩ := plainPair_some split
  rw [parts, keyOf_append whole, ← same, ← unescaped]

/-- Parts from which both paths make the same dictionary are tidy. -/
theorem tidy_of_collect {parts : List Text} {dict : Dict Text ν}
    {readValue readValue' : Text → Option ν} (plain : ∀ part ∈ parts, '\\' ∉ part)
    (simple : collect (simplePath.readPair readValue) parts = some dict)
    (complete : collect (completePath.readPair readValue') parts = some dict) :
    ∀ part ∈ parts, Tidy part := by
  intro part member
  obtain ⟨keys, -, readable⟩ := collect_spec simple
  obtain ⟨keys', -, readable'⟩ := collect_spec complete
  obtain ⟨⟨key, value⟩, read⟩ := readable part member
  obtain ⟨⟨key', value'⟩, read'⟩ := readable' part member
  refine ⟨(complete_readPair (plain part member) read').1, fun _ => ?_⟩
  have listed := (keys key).2 ⟨part, member, value, read⟩
  obtain ⟨other, member', value'', read''⟩ := (keys' key).1 listed
  have good := complete_readPair (plain other member') read''
  rw [← simple_readPair read]
  exact ⟨good.2.2, good.2.1⟩

end Reading

theorem length_splitOn (separator : Char) (text : Text) :
    (text.splitOn separator).length = text.count separator + 1 := by
  induction text with
  | nil => simp
  | cons character rest ih =>
    rw [splitOn_cons]
    by_cases here : character = separator
    · simp [here, ih]
    · simp [here, ih, List.splitOn_ne_nil, List.count_cons_of_ne]

theorem mem_splitOn {separator : Char} {text : Text} (part : Text)
    (member : part ∈ text.splitOn separator) :
    separator ∉ part ∧ ∀ character ∈ part, character ∈ text := by
  induction text generalizing part with
  | nil =>
    have empty : part = [] := by simpa using member
    simp [empty]
  | cons character rest ih =>
    rw [splitOn_cons] at member
    by_cases here : character = separator
    · rw [if_pos here, List.mem_cons] at member
      cases member with
      | inl empty => simp [empty]
      | inr later => exact ⟨(ih part later).1, fun other found =>
        List.mem_cons_of_mem _ ((ih part later).2 other found)⟩
    · rw [if_neg here] at member
      cases parts : rest.splitOn separator with
      | nil => exact absurd parts (List.splitOn_ne_nil separator rest)
      | cons first others =>
        rw [parts, extend, List.mem_cons] at member
        cases member with
        | inl front =>
          have below := ih first (by simp [parts])
          rw [front]
          exact ⟨by simp [Ne.symm here, below.1],
            by simpa using fun other found => Or.inr (below.2 other found)⟩
        | inr later =>
          have below := ih part (by simp [parts, later])
          exact ⟨below.1, fun other found => List.mem_cons_of_mem _ (below.2 other found)⟩

/-- A simple text is three sections with a space between them. -/
theorem simple_sections {text : Text} (once : simple text = true) :
    ∃ series fieldText timestampText, sectionsOf text = (series, fieldText, timestampText) ∧
      plainSections text = some (series, fieldText, timestampText) ∧
      text = series ++ ' ' :: (fieldText ++ ' ' :: timestampText) ∧
      ('\\' ∉ series ∧ '\\' ∉ fieldText ∧ '\\' ∉ timestampText) ∧
      (' ' ∉ series ∧ ' ' ∉ fieldText ∧ ' ' ∉ timestampText) := by
  have marks : '\\' ∉ text ∧ text.count ' ' = 2 := by simpa [simple] using once
  have three := length_splitOn ' ' text
  rw [marks.2] at three
  obtain ⟨series, fieldText, timestampText, parts⟩ := List.length_eq_three.1 three
  have whole : [' '].intercalate (text.splitOn ' ') = text := List.intercalate_splitOn ' '
  rw [parts] at whole
  have inside (part : Text) (member : part ∈ text.splitOn ' ') : ' ' ∉ part ∧ '\\' ∉ part :=
    ⟨(mem_splitOn part member).1, fun slash => marks.1 ((mem_splitOn part member).2 _ slash)⟩
  have one := inside series (by simp [parts])
  have two := inside fieldText (by simp [parts])
  have three := inside timestampText (by simp [parts])
  have read : plainSections text = some (series, fieldText, timestampText) := by
    simp [plainSections, parts]
  exact ⟨series, fieldText, timestampText, by simp [sectionsOf, read], read,
    by simpa [List.intercalate] using whole.symm, ⟨one.2, two.2, three.2⟩, one.1, two.1, three.1⟩

/-- Where the fields are tidy, their quoted split is the plain one. -/
theorem split_tidy {fieldText : Text} (plain : '\\' ∉ fieldText)
    (tidy : ∀ part ∈ fieldText.splitOn ',', Tidy part) :
    splitUnescaped fieldText ',' true none = some (fieldText.splitOn ',') ∧
      odd fieldText = false := by
  have even (part : Text) (member : part ∈ fieldText.splitOn ',') : odd part = false :=
    (odd_eq_false part).2 (tidy part member).1
  cases parts : fieldText.splitOn ',' with
  | nil => exact absurd parts (List.splitOn_ne_nil ',' fieldText)
  | cons first rest =>
    have split := splitFrom_balanced plain (by decide) parts (even first (by simp [parts]))
      fun part member => even part (by simp [parts, member])
    rw [← parts]
    exact ⟨split, (splitFrom_parts plain split).1⟩

theorem Reading.parse_of (reading : Reading) (literals : Literals)
    {text series fieldText timestampText : Text} {seriesParts rawFields : List Text}
    (sections : reading.sections text = some (series, fieldText, timestampText))
    (parts : reading.seriesParts series = some seriesParts)
    (fields : reading.rawFields fieldText = some rawFields) :
    reading.parse literals text = (do
      let measurement ← seriesParts.head? >>= reading.name
      let tags ← Reading.collect reading.readTag (seriesParts.drop 1)
      let fields ← Reading.collect (reading.readField literals) rawFields
      let timestampNs ← literals.int timestampText
      return ⟨measurement, tags, fields, timestampNs⟩) := by
  simp [Reading.parse, sections, parts, fields]

theorem agree_of_plain {text series fieldText timestampText : Text} (literals : Literals)
    (sections : sectionsOf text = (series, fieldText, timestampText))
    (split : plainSections text = some (series, fieldText, timestampText))
    (complete : splitSections text = if odd series || odd fieldText || odd timestampText then none
      else some (series, fieldText, timestampText))
    (clean : '\\' ∉ series ∧ '\\' ∉ fieldText) (plain : Plain text) :
    simplePath.parse literals text = completePath.parse literals text := by
  obtain ⟨evenSeries, evenTimestamp, tags, fields⟩ := plain
  simp only [tagParts, fieldParts, sections, ← odd_eq_false] at evenSeries evenTimestamp tags fields
  obtain ⟨fieldParts, evenFields⟩ := split_tidy clean.2 fields
  have seriesParts : splitUnescaped series ',' false none = some (series.splitOn ',') :=
    splitFrom_unquoted clean.1
  rw [evenSeries, evenFields, evenTimestamp] at complete
  have inSeries (part : Text) (member : part ∈ series.splitOn ',') : '\\' ∉ part :=
    fun slash => clean.1 ((mem_splitOn part member).2 _ slash)
  have inFields (part : Text) (member : part ∈ fieldText.splitOn ',') : '\\' ∉ part :=
    fun slash => clean.2 ((mem_splitOn part member).2 _ slash)
  have sameTags : Reading.collect simplePath.readTag ((series.splitOn ',').drop 1) =
      Reading.collect completePath.readTag ((series.splitOn ',').drop 1) :=
    Reading.collect_congr fun part member => Reading.readPair_tidy
      (fun value clean => (unescape_plain clean).symm)
      (inSeries part (List.mem_of_mem_drop member)) (tags part member)
  have sameFields : Reading.collect (simplePath.readField literals) (fieldText.splitOn ',') =
      Reading.collect (completePath.readField literals) (fieldText.splitOn ',') :=
    Reading.collect_congr fun part member => Reading.readPair_tidy (fun _ _ => rfl)
      (inFields part member) (fields part member)
  have measurement : (series.splitOn ',').head? >>= simplePath.name =
      (series.splitOn ',').head? >>= completePath.name := by
    cases parts : series.splitOn ',' with
    | nil => rfl
    | cons first rest =>
      have clean := inSeries first (by simp [parts])
      simp [simplePath, completePath, unescape_plain clean]
  have sections' : completePath.sections text = some (series, fieldText, timestampText) := by
    simpa [completePath] using complete
  rw [Reading.parse_of simplePath literals split rfl rfl,
    Reading.parse_of completePath literals sections' seriesParts fieldParts, sameTags, sameFields,
    measurement]

/-- The stages of a path that accepts a text. -/
theorem Reading.parse_some {reading : Reading} {literals : Literals} {text : Text}
    {point : LinePoint} (parsed : reading.parse literals text = some point) :
    ∃ series fieldText timestampText seriesParts rawFields,
      reading.sections text = some (series, fieldText, timestampText) ∧
      reading.seriesParts series = some seriesParts ∧
      reading.rawFields fieldText = some rawFields ∧
      Reading.collect reading.readTag (seriesParts.drop 1) = some point.tags ∧
      Reading.collect (reading.readField literals) rawFields = some point.fields := by
  simp only [Reading.parse, Option.bind_eq_bind, Option.bind_eq_some_iff, Option.pure_def,
    Option.some.injEq] at parsed
  obtain ⟨⟨series, fieldText, timestampText⟩, sections, seriesParts, series', rawFields, fields',
    measurement, _, tags, tagged, fields, fielded, timestampNs, _, rfl⟩ := parsed
  exact ⟨series, fieldText, timestampText, seriesParts, rawFields, sections, series', fields',
    tagged, fielded⟩

/-- The plain and the quoted split of the fields give as many keys only if they are one. -/
theorem fields_plain {fieldText : Text} {parts : List Text} {literals : Literals}
    {fields : Dict Text SampleValue} (plain : '\\' ∉ fieldText)
    (split : splitUnescaped fieldText ',' true none = some parts)
    (distinct : ((fieldText.splitOn ',').map keyOf).Nodup)
    (simple : Reading.collect (simplePath.readField literals) (fieldText.splitOn ',') = some fields)
    (complete : Reading.collect (completePath.readField literals) parts = some fields) :
    parts = fieldText.splitOn ',' := by
  obtain ⟨keys, -, readable⟩ := Reading.collect_spec simple
  obtain ⟨-, fewer, -⟩ := Reading.collect_spec complete
  have listed : (fieldText.splitOn ',').map keyOf ⊆ fields.keys := by
    intro key member
    obtain ⟨part, listed, rfl⟩ := List.mem_map.1 member
    obtain ⟨⟨key, value⟩, read⟩ := readable part listed
    rw [← Reading.simple_readPair read]
    exact (keys key).2 ⟨part, listed, value, read⟩
  have many := List.Nodup.length_le_of_subset distinct listed
  rw [List.length_map, Dict.keys, List.length_map] at many
  exact (splitFrom_plain plain (by decide) split).2 (by omega)

theorem plain_of_agree {text series fieldText timestampText : Text} (literals : Literals)
    (sections : sectionsOf text = (series, fieldText, timestampText))
    (split : plainSections text = some (series, fieldText, timestampText))
    (complete : splitSections text = if odd series || odd fieldText || odd timestampText then none
      else some (series, fieldText, timestampText))
    (clean : '\\' ∉ series ∧ '\\' ∉ fieldText) {point : LinePoint}
    (simple : simplePath.parse literals text = some point)
    (full : completePath.parse literals text = some point)
    (distinct : ((fieldParts text).map keyOf).Nodup) : Plain text := by
  obtain ⟨_, _, _, seriesParts, rawFields, split', parts, raws, tags, fields⟩ :=
    Reading.parse_some simple
  obtain ⟨_, _, _, seriesParts', rawFields', complete', parts', raws', tags', fields'⟩ :=
    Reading.parse_some full
  have same : splitSections text = some _ := complete'
  rw [complete] at same
  have even : (odd series || odd fieldText || odd timestampText) = false := by
    cases uneven : odd series || odd fieldText || odd timestampText with
    | false => rfl
    | true => simp [uneven] at same
  rw [even] at same
  have first : plainSections text = some _ := split'
  rw [split] at first
  simp only [Option.some.injEq, Prod.mk.injEq, Bool.false_eq_true, if_false] at first same
  obtain ⟨rfl, rfl, rfl⟩ := first
  obtain ⟨rfl, rfl, rfl⟩ := same
  have plainParts : splitUnescaped series ',' false none = some (series.splitOn ',') :=
    splitFrom_unquoted clean.1
  have sameSeries : seriesParts' = series.splitOn ',' := by
    have listed : splitUnescaped series ',' false none = some seriesParts' := parts'
    simpa [plainParts, eq_comm] using listed
  have sameSeries' : seriesParts = series.splitOn ',' := by
    simpa [simplePath, eq_comm] using parts
  have sameFields : rawFields = fieldText.splitOn ',' := by
    simpa [simplePath, eq_comm] using raws
  rw [sameSeries'] at tags
  rw [sameSeries] at tags'
  rw [sameFields] at fields
  simp only [fieldParts, sections] at distinct
  have sameFields' := fields_plain clean.2 raws' distinct fields fields'
  rw [sameFields'] at fields'
  simp only [Bool.or_eq_false_iff] at even
  constructor <;> simp only [sections, tagParts, fieldParts]
  · exact (odd_eq_false series).1 even.1.1
  · exact (odd_eq_false timestampText).1 even.2
  · exact Reading.tidy_of_collect (fun part member slash => clean.1
      ((mem_splitOn part (List.mem_of_mem_drop member)).2 _ slash)) tags tags'
  · exact Reading.tidy_of_collect (fun part member slash => clean.2
      ((mem_splitOn part member).2 _ slash)) fields fields'

/-- On a simple text the paths agree where it is plain. A text that they accept alike is
plain, unless it gives a field twice. -/
theorem simplePath_agrees_iff (literals : Literals) (text : Text) (once : simple text = true) :
    (Plain text → simplePath.parse literals text = completePath.parse literals text) ∧
      (simplePath.parse literals text = completePath.parse literals text →
        (simplePath.parse literals text).isSome → ((fieldParts text).map keyOf).Nodup →
          Plain text) := by
  obtain ⟨series, fieldText, timestampText, sections, split, whole, clean, spaces⟩ :=
    simple_sections once
  have complete := splitSections_eq clean spaces
  rw [← whole] at complete
  constructor
  · exact agree_of_plain literals sections split complete ⟨clean.1, clean.2.1⟩
  · intro agree accepted distinct
    obtain ⟨point, parsed⟩ := Option.isSome_iff_exists.1 accepted
    exact plain_of_agree literals sections split complete ⟨clean.1, clean.2.1⟩ parsed
      (agree ▸ parsed) distinct

/-- The decimal digits that Python reads as a number. -/
def digits (text : Text) : Option Nat :=
  if text ≠ [] ∧ text.all Char.isDigit then
    some (text.foldl (fun number digit => 10 * number + (digit.toNat - '0'.toNat)) 0)
  else none

def decimal : Literals :=
  ⟨fun text => (digits text).map fun number => (number : Int),
    fun text => (digits text).map fun number => .finite number⟩

theorem numericRow_agrees :
    simplePath.parse decimal "can,signal=RPM value=4000 17".toList =
      completePath.parse decimal "can,signal=RPM value=4000 17".toList :=
  (simplePath_agrees_iff decimal _ (by decide +kernel)).1
    ⟨by decide +kernel, by decide +kernel, by decide +kernel, by decide +kernel⟩

/-- A comma in a string field is refused by the simple path, an empty key is taken by it. -/
theorem quotedComma_differs :
    let quotedComma := "m a=\"x,y\" 5".toList
    let emptyKey := "m =1 5".toList
    (simple quotedComma ∧ (simplePath.parse decimal quotedComma).isNone ∧
      (completePath.parse decimal quotedComma).isSome) ∧
    (simple emptyKey ∧ (simplePath.parse decimal emptyKey).isSome ∧
      (completePath.parse decimal emptyKey).isNone) := by
  decide +kernel

end OpenLaps.LineProtocol
