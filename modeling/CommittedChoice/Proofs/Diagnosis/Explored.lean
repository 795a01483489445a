import CommittedChoice.Proofs.Diagnosis.Events
import CommittedChoice.Proofs.Reading.Characters

/-! How far a run looks. A log explores a set of words when each character consumed, in a branch
that is given back like in one that is kept, ends one of these words, counted from where the run
began. What comes later in a sequence explores words that go on with what was read before. -/
namespace CommittedChoice

/-- A text that some continuation makes one of the language. -/
def Viable (L : List Char → Prop) (text : List Char) : Prop := ∃ rest, L (text ++ rest)

/-- A text that begins one of some value. -/
def Begun {α : Type} (R : α → List Char → Prop) (text : List Char) : Prop :=
  ∃ value, Viable (R value) text

theorem viable_whole {L : List Char → Prop} {text : List Char} (known : L text) : Viable L text :=
  ⟨[], by rwa [List.append_nil]⟩

theorem begun_whole {α : Type} {R : α → List Char → Prop} {value : α} {text : List Char}
    (known : R value text) : Begun R text :=
  ⟨value, viable_whole known⟩

theorem Viable.shorter {L : List Char → Prop} {text rest : List Char}
    (known : Viable L (text ++ rest)) : Viable L text := by
  obtain ⟨more, known⟩ := known
  exact ⟨rest ++ more, by rwa [← List.append_assoc]⟩

/-- The longest part of a text, from its start, that begins a text of the language. -/
structure LongestViable (L : List Char → Prop) (text viable : List Char) : Prop where
  initial : viable <+: text
  begins : Viable L viable
  longest : ∀ other, other <+: text → Viable L other → other.length ≤ viable.length

theorem exists_longestViable {L : List Char → Prop} (text : List Char) (empty : Viable L []) :
    ∃ viable, LongestViable L text viable := by
  induction text generalizing L with
  | nil =>
    refine ⟨[], List.nil_prefix, empty, fun other initial _ => ?_⟩
    obtain rfl := List.prefix_nil.mp initial
    exact Nat.le_refl _
  | cons char text ih =>
    by_cases single : Viable L [char]
    · obtain ⟨viable, initial, known, longest⟩ := ih (L := fun word => L (char :: word)) single
      refine ⟨char :: viable, (List.prefix_cons_inj char).mpr initial, known, ?_⟩
      intro other early known'
      rcases List.prefix_cons_iff.mp early with rfl | ⟨rest, rfl, inner⟩
      · exact Nat.zero_le _
      · exact Nat.succ_le_succ (longest rest inner known')
    · refine ⟨[], List.nil_prefix, empty, fun other initial known => ?_⟩
      rcases List.prefix_cons_iff.mp initial with rfl | ⟨rest, rfl, _⟩
      · exact Nat.le_refl _
      · exact absurd (Viable.shorter known : Viable L [char]) single

/-- No character that begins a text of the language is behind the last one that does. -/
theorem LongestViable.size_le {L : List Char → Prop} {text viable seen left : List Char}
    {char : Char} (longest : LongestViable L text viable) (split : text = seen ++ char :: left)
    (word : Viable L (seen ++ [char])) :
    viable ≠ [] ∧ Text.size seen ≤ Text.size viable.dropLast := by
  have initial : seen ++ [char] <+: text := ⟨left, by simp [split]⟩
  obtain ⟨more, rfl⟩ : seen ++ [char] <+: viable :=
    List.prefix_of_prefix_length_le initial longest.initial (longest.longest _ initial word)
  refine ⟨by simp, ?_⟩
  rw [List.append_assoc, List.dropLast_append_of_ne_nil (by simp), Text.size_append]
  exact Nat.le_add_right _ _

/-- The event consumes a character that ends a word from the place of the state. -/
def Event.Within (event : Event) (state : State) (text : List Char) (W : List Char → Prop) : Prop :=
  ∃ seen char left, text = seen ++ char :: left ∧
    event.state.cursor = state.cursor + Text.size seen ∧ W (seen ++ [char])

def Log.Explores (log : Log) (W : List Char → Prop) : Prop :=
  ∀ ⦃state front text⦄, State.Splits state front text → ∀ event ∈ log state,
    event.act = .consume → event.Within state text W

namespace Event.Within

variable {event : Event} {state middle : State} {W W' : List Char → Prop}
  {front taken left text : List Char}

theorem mono (known : event.Within state text W) (each : ∀ word, W word → W' word) :
    event.Within state text W' := by
  obtain ⟨seen, char, left, split, place, word⟩ := known
  exact ⟨seen, char, left, split, place, each _ word⟩

/-- Words from a place further on go on with the text up to there. -/
theorem further (splits : state.Splits front (taken ++ left))
    (splits' : middle.Splits (front ++ taken) left)
    (known : event.Within middle left fun word => W (taken ++ word)) :
    event.Within state (taken ++ left) W := by
  obtain ⟨seen, char, rest, rfl, place, word⟩ := known
  refine ⟨taken ++ seen, char, rest, (List.append_assoc _ _ _).symm, ?_, by simpa using word⟩
  rw [place, splits'.cursor, splits.cursor, Text.size_append, Text.size_append, Nat.add_assoc]

end Event.Within

namespace Log.Explores

variable {α β : Type} {p : Parser α} {q : Parser β} {log first second body : Log} {next : α → Log}
  {R : α → List Char → Prop} {S W W' : List Char → Prop}

theorem mono (known : log.Explores W) (each : ∀ word, W word → W' word) : log.Explores W' :=
  fun _ _ _ splits event member act => (known splits event member act).mono each

theorem quiet : quiet.Explores W := by
  rintro _ _ _ _ _ ⟨⟩

theorem fail (expected : Expected) : (fail expected).Explores W := by
  intro state _ _ _ event member act
  rw [List.mem_singleton.mp member] at act
  cases act

/-- The first character of the text ends a word. -/
theorem within_head {state : State} {char : Char} {act : Act} {left : List Char} (word : W [char]) :
    (Event.mk state act).Within state (char :: left) W :=
  ⟨[], char, left, rfl, rfl, word⟩

theorem satisfy {accepts : Char → Bool} (each : ∀ char, accepts char → W [char]) :
    (satisfy accepts).Explores W := by
  intro state front text splits event member _
  unfold Log.satisfy at member
  rw [splits.peek] at member
  cases text with
  | nil => cases member
  | cons char left =>
    simp only [List.head?_cons] at member
    split at member
    next accepted =>
      obtain rfl := List.mem_singleton.mp member
      exact within_head (each char accepted)
    next => cases member

theorem matchChars {chars : List Char}
    (each : ∀ word rest, chars = word ++ rest → word ≠ [] → W word) :
    (matchChars chars).Explores W := by
  induction chars generalizing W with
  | nil => exact quiet
  | cons char chars ih =>
    intro state front text splits event member act
    rw [Log.matchChars] at member
    split at member
    next peek =>
      rw [splits.peek] at peek
      obtain ⟨left, rfl⟩ := List.head?_eq_some_iff.mp peek
      rcases List.mem_cons.mp member with rfl | later
      · exact within_head (each [char] chars rfl (List.cons_ne_nil _ _))
      · have others : (Log.matchChars chars).Explores fun word => W ([char] ++ word) :=
          ih fun word rest split _ => each _ rest (by simp [split]) (by simp)
        exact .further splits splits.advance (others splits.advance event later act)
    next => cases member

theorem bind (head : first.Explores W) (read : p.Yields R)
    (others : ∀ value piece, R value piece → (next value).Explores fun word => W (piece ++ word)) :
    (Log.bind p first next).Explores W := by
  intro state front text splits event member act
  rcases List.mem_append.mp member with early | late
  · exact head splits event early act
  · unfold afterSuccess at late
    split at late
    next value after run =>
      obtain ⟨taken, left, rfl, splits', known⟩ := read splits run
      exact .further splits splits' (others value taken known splits' event late act)
    next => cases late

/-- Where a clean failure has led, the same text stands. -/
theorem afterClean {state origin : State} {front text : List Char} {event : Event}
    (splits : state.Splits front text) (here : p.Local) (same : state.cursor = origin.cursor)
    (member : event ∈ afterClean origin.cursor second (p state)) :
    ∃ after : State, after.Splits front text ∧ after.cursor = origin.cursor ∧
      event ∈ second after := by
  unfold Log.afterClean at member
  split at member
  next expected after run =>
    split at member
    next clean =>
      exact ⟨after, here.splits_of_clean splits run (clean.trans same.symm), clean, member⟩
    next => cases member
  next => cases member

theorem orElse (head : first.Explores W) (other : second.Explores W) (here : p.Local) :
    (Log.orElse p first second).Explores W := by
  intro state front text splits event member act
  rcases List.mem_append.mp member with early | late
  · exact head splits event early act
  · obtain ⟨after, splits', clean, member'⟩ := afterClean splits here rfl late
    obtain ⟨seen, char, left, split, place, word⟩ := other splits' event member' act
    exact ⟨seen, char, left, split, clean ▸ place, word⟩

theorem choice {alternatives : List (Parser α × Log)}
    (each : ∀ alternative ∈ alternatives, alternative.1.Local ∧ alternative.2.Explores W) :
    Explores (fun state => Log.choiceFrom state.cursor alternatives state) W := by
  intro origin front text splits event member act
  -- The alternatives are tried at the place of the origin, in states that may have other markers.
  suffices tried : ∀ state : State, state.Splits front text → state.cursor = origin.cursor →
      event ∈ Log.choiceFrom origin.cursor alternatives state → event.Within origin text W from
    tried origin splits rfl member
  clear member
  induction alternatives with
  | nil => rintro _ _ _ ⟨⟩
  | cons alternative others ih =>
    obtain ⟨p, log⟩ := alternative
    intro state splits' same member
    obtain ⟨here, head⟩ := each (p, log) List.mem_cons_self
    rcases List.mem_append.mp member with early | late
    · obtain ⟨seen, char, left, split, place, word⟩ := head splits' event early act
      exact ⟨seen, char, left, split, same ▸ place, word⟩
    · obtain ⟨after, splits'', clean, member'⟩ := afterClean splits' here same late
      exact ih (fun other listed => each other (List.mem_cons_of_mem _ listed)) after splits''
        clean member'

/-- A round goes on with the pieces that the rounds before it have read. -/
theorem rounds (read : p.Yields R) {limit : Nat}
    (each : ∀ values before, values.length < limit → Pieces R values before →
      body.Explores fun word => W (before ++ word)) :
    (Log.rounds p body limit).Explores W := by
  induction limit generalizing W with
  | zero => exact quiet
  | succ limit ih =>
    refine bind (each [] [] (Nat.succ_pos _) .nil) read fun value piece known => ih ?_
    intro values before fewer pieces
    simpa using each (value :: values) (piece ++ before) (Nat.succ_lt_succ fewer)
      (.cons known pieces)

/-- A separator goes on with a list, and an item goes on with the separator. -/
theorem sepBy (item : p.Yields R) (separator : q.Yields fun _ piece => S piece) (limit : Nat)
    (head : first.Explores W)
    (between : ∀ values before, Listed R S values before → values ≠ [] →
      second.Explores fun word => W (before ++ word))
    (others : ∀ values before piece, Listed R S values before → values ≠ [] → S piece →
      first.Explores fun word => W (before ++ (piece ++ word))) :
    (Log.bind p first fun _ => .rounds (q.seqRight p) (.bind q second fun _ => first) limit
      ).Explores W := by
  have round : (q.seqRight p).Yields (After S R) :=
    separator.seqRight fun _ piece between => item.mono fun _ _ next => .mk between next
  refine bind head item fun value piece known => rounds round ?_
  intro values before _ pieces
  have listed : Listed R S (value :: values) (piece ++ before) := .cons known pieces
  refine bind ?_ separator fun _ separator known => ?_
  · simpa using between _ _ listed (List.cons_ne_nil _ _)
  · simpa using others _ _ separator listed (List.cons_ne_nil _ _) known

/-- A loop over one class explores the runs of its characters. -/
theorem run {accepts : Char → Bool} (name : String) (limit : Nat)
    (each : ∀ word, word ≠ [] → (∀ char ∈ word, accepts char) → W word) :
    (Log.rounds ((Parser.satisfy accepts).label name) (.satisfy accepts) limit).Explores W := by
  refine rounds (Parser.yields_class name) fun values before _ pieces => satisfy ?_
  intro char accepted
  obtain ⟨rfl, all⟩ := pieces.toChars
  refine each _ (by simp) fun other member => ?_
  rcases List.mem_append.mp member with earlier | last
  · exact all other earlier
  · exact List.mem_singleton.mp last ▸ accepted

end Log.Explores

namespace Grammar

variable {ι : Type} {τ : ι → Type} {α : Type} {call : (name : ι) → Parser (τ name)}
  {calls : ι → Log} {limit : Nat} {W : List Char → Prop} {c : Char} {set : String}

theorem explores_char (word : W [c]) :
    ((char c : Grammar τ Char).events call calls limit).Explores W :=
  .satisfy fun _ accepted => of_decide_eq_true accepted ▸ word

theorem explores_oneOf (each : ∀ c ∈ set.toList, W [c]) :
    ((oneOf set : Grammar τ Char).events call calls limit).Explores W :=
  .satisfy fun c accepted => each c (of_decide_eq_true accepted)

theorem explores_choiceOf (rules : ∀ name, (call name).Local) {alternatives : List (Grammar τ α)}
    (each : ∀ g ∈ alternatives, (g.events call calls limit).Explores W) :
    ((choiceOf alternatives).events call calls limit).Explores W := by
  apply Log.Explores.choice
  intro alternative member
  obtain ⟨i, rfl⟩ := List.mem_ofFn.mp member
  exact ⟨Grammar.parser_local rules limit _, each _ (List.getElem_mem i.2)⟩

end Grammar

end CommittedChoice
