import CommittedChoice.Parser.Repetition

/-! Outcomes, sequencers and parsers obey the same laws of sequencing. A parser is bound as a
sequencer is, with the short cut of outcomes in what it goes on to, and its laws follow from those
of sequencers. -/
namespace CommittedChoice

/-- Left identity, right identity and associativity, and `map` as a bind into `pure`. -/
structure Monadic (F : Type → Type) (pure : {α : Type} → α → F α)
    (bind : {α β : Type} → F α → (α → F β) → F β)
    (map : {α β : Type} → (α → β) → F α → F β) : Prop where
  pure_bind {α β : Type} (value : α) (next : α → F β) : bind (pure value) next = next value
  bind_pure {α : Type} (first : F α) : bind first pure = first
  bind_assoc {α β γ : Type} (first : F α) (next : α → F β) (last : β → F γ) :
    bind (bind first next) last = bind first fun value => bind (next value) last
  map_eq_bind {α β : Type} (f : α → β) (first : F α) :
    map f first = bind first fun value => pure (f value)

theorem Outcome.monadic (ε : Type) : Monadic (Outcome ε) pure andThen map where
  pure_bind _ _ := rfl
  bind_pure first := by cases first <;> rfl
  bind_assoc first _ _ := by cases first <;> rfl
  map_eq_bind _ first := by cases first <;> rfl

namespace Sequencer

variable (m : Type → Type) [Monad m] (σ : Type)

/-- What was put is the state from then on, and what is got is the state that there is. -/
structure Stateful : Prop where
  put_put (first second : σ) :
    (put first : Sequencer m σ Unit).bind (fun _ => put second) = put second
  put_get (state : σ) :
    (put state : Sequencer m σ Unit).bind (fun _ => get) = (put state).map fun _ => state
  get_put : (get : Sequencer m σ σ).bind put = pure ()
  modify_modify (f g : σ → σ) :
    (modify f : Sequencer m σ Unit).bind (fun _ => modify g) = modify (g ∘ f)

variable [LawfulMonad m]

/-- A sequencer passes its state through the base monad, and has the laws that the base has. -/
theorem monadic : Monadic (Sequencer m σ) pure bind map where
  pure_bind value _ := funext fun state => LawfulMonad.pure_bind (value, state) _
  bind_pure first := funext fun state => bind_pure (first state)
  bind_assoc first _ _ := funext fun state => LawfulMonad.bind_assoc (first state) _ _
  map_eq_bind _ _ := rfl

theorem stateful : Stateful m σ where
  put_put first second := funext fun state => by simp [put, bind]
  put_get state := funext fun before => by simp [put, bind, get, map]
  get_put := funext fun state => by simp [put, bind, get, pure]
  modify_modify f g := funext fun state => by simp [bind, modify]

end Sequencer

namespace Parser

variable {α β γ : Type}

/-- A parser as the sequencer that yields its outcome. -/
def sequenced (p : Parser α) : Sequencer Option State (Outcome Expected α) := fun state => p state

/-- Goes on from a success; a failure is yielded as it is. -/
def proceed (next : α → Parser β) :
    Outcome Expected α → Sequencer Option State (Outcome Expected β)
  | .failure expected => .pure (.failure expected)
  | .success value => (next value).sequenced

theorem sequenced_bind (p : Parser α) (next : α → Parser β) :
    (p.bind next).sequenced = p.sequenced.bind (proceed next) := by
  refine funext fun state => congrArg (p state >>= ·) (funext fun reply => ?_)
  obtain ⟨_ | _, _⟩ := reply <;> rfl

theorem sequenced_map (f : α → β) (p : Parser α) :
    (p.map f).sequenced = p.sequenced.map (Outcome.map f) := by
  refine funext fun state => congrArg (p state >>= ·) (funext fun reply => ?_)
  obtain ⟨_ | _, _⟩ := reply <;> rfl

theorem proceed_pure : proceed (pure : α → Parser α) = Sequencer.pure := by
  funext outcome
  cases outcome <;> rfl

/-- To go on and then to go on again is to go on to both. -/
theorem proceed_bind (next : α → Parser β) (last : β → Parser γ) :
    (proceed fun value => (next value).bind last) =
      fun outcome => (proceed next outcome).bind (proceed last) := by
  funext outcome
  cases outcome with
  | failure expected => exact ((Sequencer.monadic Option State).pure_bind _ _).symm
  | success value => exact sequenced_bind (next value) last

theorem proceed_map (f : α → β) :
    (proceed fun value => pure (f value)) =
      fun outcome => Sequencer.pure (Outcome.map f outcome) := by
  funext outcome
  cases outcome <;> rfl

theorem monadic : Monadic Parser pure bind map where
  pure_bind value next := calc
    ((pure value).bind next).sequenced
      = (Sequencer.pure (.success value)).bind (proceed next) := sequenced_bind (pure value) next
    _ = (next value).sequenced := (Sequencer.monadic Option State).pure_bind _ _
  bind_pure first := calc
    (first.bind pure).sequenced
      = first.sequenced.bind (proceed pure) := sequenced_bind first pure
    _ = first.sequenced.bind Sequencer.pure := congrArg _ proceed_pure
    _ = first.sequenced := (Sequencer.monadic Option State).bind_pure _
  bind_assoc first next last := calc
    ((first.bind next).bind last).sequenced
      = (first.bind next).sequenced.bind (proceed last) := sequenced_bind _ last
    _ = (first.sequenced.bind (proceed next)).bind (proceed last) :=
      congrArg (Sequencer.bind · (proceed last)) (sequenced_bind first next)
    _ = first.sequenced.bind fun outcome => (proceed next outcome).bind (proceed last) :=
      (Sequencer.monadic Option State).bind_assoc _ _ _
    _ = first.sequenced.bind (proceed fun value => (next value).bind last) :=
      congrArg _ (proceed_bind next last).symm
    _ = (first.bind fun value => (next value).bind last).sequenced := (sequenced_bind _ _).symm
  map_eq_bind f first := calc
    (first.map f).sequenced
      = first.sequenced.map (Outcome.map f) := sequenced_map f first
    _ = first.sequenced.bind fun outcome => Sequencer.pure (Outcome.map f outcome) :=
      (Sequencer.monadic Option State).map_eq_bind _ _
    _ = first.sequenced.bind (proceed fun value => pure (f value)) :=
      congrArg _ (proceed_map f).symm
    _ = (first.bind fun value => pure (f value)).sequenced := (sequenced_bind _ _).symm

/-- Whatever would have come next, even what never ends. -/
theorem bind_of_failure {p : Parser α} {state after : State} {expected : Expected}
    (failed : p state = some (.failure expected, after)) (next : α → Parser β) :
    p.bind next state = some (.failure expected, after) := by
  rw [bind, failed]
  rfl

end Parser

/-- The three layers are lawful monads and fit together: a parser's bind is the bind of sequencers
that yields a failure as it is and goes on from a success. -/
theorem layers_lawful (m : Type → Type) [Monad m] [LawfulMonad m] (ε σ : Type) :
    (Monadic (Outcome ε) Outcome.pure Outcome.andThen Outcome.map ∧
      ∀ {α β : Type} (reason : ε) (next : α → Outcome ε β),
        (Outcome.failure reason).andThen next = .failure reason) ∧
    (Monadic (Sequencer m σ) Sequencer.pure Sequencer.bind Sequencer.map ∧
      Sequencer.Stateful m σ) ∧
    (Monadic Parser Parser.pure Parser.bind Parser.map ∧
      ∀ {α β : Type} (p : Parser α) (next : α → Parser β) {state after : State}
        {expected : Expected}, p state = some (.failure expected, after) →
        p.bind next state = some (.failure expected, after)) ∧
    ∀ {α β : Type} (p : Parser α) (next : α → Parser β),
      (p.bind next).sequenced = p.sequenced.bind (Parser.proceed next) :=
  ⟨⟨Outcome.monadic ε, fun _ _ => rfl⟩, ⟨Sequencer.monadic m σ, Sequencer.stateful m σ⟩,
    ⟨Parser.monadic, fun _ next _ _ _ failed => Parser.bind_of_failure failed next⟩,
    Parser.sequenced_bind⟩

/-- A digit and as many letters, then a word of them. -/
theorem counted_letters_lawful :
    let digit : Parser Char := .satisfy Char.isDigit
    let letters : Char → Parser (List Char) := fun char =>
      .count (char.toNat - '0'.toNat) (.satisfy Char.isAlpha)
    let word : List Char → Parser String := fun chars => .pure (String.ofList chars)
    LawfulMonad Id ∧ (digit.bind letters).bind word (.start "2ab;") =
        some (.success "ab", ⟨"2ab;", 3, some 2⟩) ∧
      ((digit.bind letters).bind word = digit.bind fun char => (letters char).bind word) ∧
      (digit.bind letters).sequenced = digit.sequenced.bind (Parser.proceed letters) := by
  intro digit letters word
  obtain ⟨_, _, ⟨lawful, _⟩, fused⟩ := layers_lawful Id String (List Nat)
  exact ⟨inferInstance, by decide, lawful.bind_assoc digit letters word, fused digit letters⟩

end CommittedChoice
