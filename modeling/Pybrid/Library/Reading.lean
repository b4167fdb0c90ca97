import Pybrid.Library.Raising

/-! Readers that take exactly the words of a language off the front of a text. -/

namespace Reading

variable {τ ε α β ι : Type}

/-- A reader takes tokens off the front of a text, or raises. -/
abbrev Reader (τ ε α : Type) := StateT (List τ) (Except ε) α

/-- The words of a language, with what they stand for. -/
abbrev Language (τ α : Type) := α → List τ → Prop

/-- A reader reads a language: the words of it and nothing else, whatever comes behind them. -/
structure Exact (reader : Reader τ ε α) (spells : Language τ α) : Prop where
  sound : ∀ {text a rest}, reader.run text = .ok (a, rest) →
    ∃ word, spells a word ∧ text = word ++ rest
  complete : ∀ {a word}, spells a word → ∀ rest, reader.run (word ++ rest) = .ok (a, rest)

/-- Take one token, or raise at the end of the text. -/
def token (error : ε) : Reader τ ε τ
  | [] => .error error
  | first :: rest => .ok (first, rest)

/-- The words of several values, one behind the other. -/
def Sequence (spells : Language τ α) : Language τ (List α)
  | [], word => word = []
  | a :: later, word => ∃ front back, spells a front ∧ Sequence spells later back ∧ word = front ++ back

/-- Two sequences behind each other are one. -/
theorem sequence_append {spells : Language τ α} {first second : List α} {word : List τ} :
    Sequence spells (first ++ second) word ↔
      ∃ front back, Sequence spells first front ∧ Sequence spells second back ∧
        word = front ++ back := by
  -- The induction is on the first values, each of which has a word of its own in front.
  induction first generalizing word with
  | nil =>
    constructor
    · exact fun spelled => ⟨[], word, rfl, spelled, rfl⟩
    · rintro ⟨front, back, rfl, spelled, rfl⟩
      exact spelled
  | cons a later ih =>
    constructor
    · rintro ⟨front, back, here, there, rfl⟩
      obtain ⟨middle, last, spelled, spelled', rfl⟩ := ih.mp there
      exact ⟨front ++ middle, last, ⟨front, middle, here, spelled, rfl⟩, spelled', by
        rw [List.append_assoc]⟩
    · rintro ⟨front, back, ⟨start, middle, here, spelled, rfl⟩, spelled', rfl⟩
      exact ⟨start, middle ++ back, here, ih.mpr ⟨middle, back, spelled, spelled', rfl⟩, by
        rw [List.append_assoc]⟩

/-- A sequence of one value. -/
theorem sequence_singleton {spells : Language τ α} {a : α} {word : List τ} :
    Sequence spells [a] word ↔ spells a word := by
  constructor
  · rintro ⟨front, back, spelled, rfl, rfl⟩
    rwa [List.append_nil]
  · exact fun spelled => ⟨word, [], spelled, rfl, (List.append_nil word).symm⟩

/-- Values that are written one behind the other are a sequence. -/
theorem sequence_flatMap {spells : Language τ α} {written : α → List τ} (values : List α)
    (each : ∀ a, spells a (written a)) : Sequence spells values (values.flatMap written) := by
  -- What is written for the values is cut after the part of the first one.
  induction values with
  | nil => rfl
  | cons a later ih => exact ⟨written a, later.flatMap written, each a, ih, List.flatMap_cons⟩

/-- A sequence of changed values is one of the values. -/
theorem sequence_change {spells : Language τ α} (change : α → β) {values : List β} {word : List τ} :
    Sequence (fun b word => ∃ a, spells a word ∧ b = change a) values word ↔
      ∃ sources, Sequence spells sources word ∧ values = sources.map change := by
  -- The source of each value is the one its word was written for.
  induction values generalizing word with
  | nil =>
    constructor
    · exact fun spelled => ⟨[], spelled, rfl⟩
    · rintro ⟨sources, spelled, none_⟩
      obtain rfl := List.map_eq_nil_iff.mp none_.symm
      exact spelled
  | cons b later ih =>
    constructor
    · rintro ⟨front, back, ⟨a, spelled, rfl⟩, behind, rfl⟩
      obtain ⟨sources, others, rfl⟩ := ih.mp behind
      exact ⟨a :: sources, ⟨front, back, spelled, others, rfl⟩, rfl⟩
    · rintro ⟨sources, spelled, same⟩
      cases sources with
      | nil => cases same
      | cons a sources =>
        obtain ⟨rfl, rfl⟩ := List.cons.inj same
        obtain ⟨front, back, here, behind, rfl⟩ := spelled
        exact ⟨front, back, ⟨a, here, rfl⟩, ih.mpr ⟨sources, behind, rfl⟩, rfl⟩

namespace Exact

variable {reader : Reader τ ε α} {spells : Language τ α}

/-- A text starts with one word at most, and that stands for one value. -/
theorem unambiguous (reads : Exact reader spells) {a b : α} {word other rest behind : List τ}
    (spelled : spells a word) (spelled' : spells b other) (same : word ++ rest = other ++ behind) :
    a = b ∧ rest = behind := by
  -- The reader is a function of the text, and the text is the same.
  have first := reads.complete spelled rest
  rw [same, reads.complete spelled' behind] at first
  simpa only [Except.ok.injEq, Prod.mk.injEq, eq_comm] using first

/-- A reader leaves no more than it was given. -/
theorem length_le (reads : Exact reader spells) {text rest : List τ} {a : α}
    (read : reader.run text = .ok (a, rest)) : rest.length ≤ text.length := by
  obtain ⟨word, _, rfl⟩ := reads.sound read
  rw [List.length_append]
  omega

/-- The same words may be described in another way. -/
theorem congr {spells' : Language τ α} (reads : Exact reader spells)
    (same : ∀ a word, spells a word ↔ spells' a word) : Exact reader spells' where
  sound read := by
    obtain ⟨word, spelled, split⟩ := reads.sound read
    exact ⟨word, (same _ word).mp spelled, split⟩
  complete spelled := reads.complete ((same _ _).mpr spelled)

/-- Handing on a value reads nothing. -/
theorem pure (a : α) : Exact (pure a : Reader τ ε α) fun b word => b = a ∧ word = [] where
  sound read := by
    cases read
    exact ⟨[], ⟨rfl, rfl⟩, rfl⟩
  complete := by
    rintro b word ⟨rfl, rfl⟩ rest
    rfl

/-- A check on the side reads nothing. -/
theorem lift (checked : Except ε α) :
    Exact (StateT.lift checked : Reader τ ε α) fun a word => checked = .ok a ∧ word = [] where
  -- A check takes no token.
  sound read := by
    cases checked with
    | error error => cases read
    | ok a =>
      cases read
      exact ⟨[], ⟨rfl, rfl⟩, rfl⟩
  complete := by
    rintro a word ⟨rfl, rfl⟩ rest
    rfl

/-- One token is read as itself. -/
theorem token (error : ε) : Exact (Reading.token error : Reader τ ε τ) fun a word => word = [a] where
  sound {text a rest} read := by
    cases text with
    | nil => cases read
    | cons first later =>
      cases read
      exact ⟨[_], rfl, rfl⟩
  complete := by
    rintro a word rfl rest
    rfl

/-- What is read one after the other is spelled one after the other. -/
theorem bind {second : α → Reader τ ε β} {spells' : α → Language τ β} (reads : Exact reader spells)
    (goesOn : ∀ a, Exact (second a) (spells' a)) :
    Exact (reader >>= second) fun b word =>
      ∃ a front back, spells a front ∧ spells' a b back ∧ word = front ++ back where
  sound {text b rest} read := by
    rw [StateT.run_bind] at read
    -- The text is cut where the first reader stopped.
    obtain ⟨⟨a, middle⟩, began, ended⟩ := Raising.except_bind_eq_ok.mp read
    obtain ⟨front, spelled, rfl⟩ := reads.sound began
    obtain ⟨back, spelled', rfl⟩ := (goesOn a).sound ended
    exact ⟨front ++ back, ⟨a, front, back, spelled, spelled', rfl⟩, by rw [List.append_assoc]⟩
  complete := by
    rintro b word ⟨a, front, back, spelled, spelled', rfl⟩ rest
    rw [StateT.run_bind, List.append_assoc, reads.complete spelled]
    exact (goesOn a).complete spelled' rest

/-- Changing what is read changes no word. -/
theorem map (reads : Exact reader spells) (change : α → β) :
    Exact (change <$> reader) fun b word => ∃ a, spells a word ∧ b = change a := by
  -- A change behind the reader is one more step that reads nothing.
  rw [map_eq_pure_bind]
  refine (reads.bind fun a => pure (change a)).congr fun b word => ?_
  constructor
  · rintro ⟨a, front, back, spelled, ⟨rfl, rfl⟩, rfl⟩
    exact ⟨a, by rwa [List.append_nil], rfl⟩
  · rintro ⟨a, spelled, rfl⟩
    exact ⟨a, word, [], spelled, ⟨rfl, rfl⟩, (List.append_nil word).symm⟩

/-- A loop reads a sequence, and puts each value at its index into what it has collected. -/
theorem foldlM (reads : Exact reader spells) (put : β → ι → α → β) :
    ∀ (indices : List ι) (start : β),
      Exact (indices.foldlM (fun collected index => put collected index <$> reader) start)
        fun b word => ∃ values, values.length = indices.length ∧ Sequence spells values word ∧
          b = (indices.zip values).foldl (fun collected entry => put collected entry.1 entry.2) start := by
  -- The induction is on the indices; each of them takes one value.
  intro indices
  induction indices with
  | nil =>
    intro start
    refine (pure start).congr fun b word => ?_
    constructor
    · rintro ⟨rfl, rfl⟩
      exact ⟨[], rfl, rfl, rfl⟩
    · rintro ⟨values, none_, spelled, rfl⟩
      obtain rfl := List.length_eq_zero_iff.mp none_
      exact ⟨rfl, spelled⟩
  | cons index later ih =>
    intro start
    rw [List.foldlM_cons]
    refine ((reads.map (put start index)).bind fun next => ih next).congr fun b word => ?_
    constructor
    · rintro ⟨_, front, back, ⟨a, spelled, rfl⟩, ⟨values, count, behind, rfl⟩, rfl⟩
      exact ⟨a :: values, by rw [List.length_cons, List.length_cons, count],
        ⟨front, back, spelled, behind, rfl⟩, rfl⟩
    · rintro ⟨values, count, spelled, rfl⟩
      cases values with
      | nil => cases count
      | cons a values =>
        obtain ⟨front, back, here, behind, rfl⟩ := spelled
        exact ⟨_, front, back, ⟨a, here, rfl⟩, ⟨values, Nat.succ.inj count, behind, rfl⟩, rfl⟩

end Exact

end Reading
