import CommittedChoice.Proofs.Diagnosis.Exact
import CommittedChoice.Proofs.Json.Exploration
import CommittedChoice.Proofs.Json.Termination

/-! The diagnostic for a rejected document points at the last character that still begins a
document, or at the first one after a document. A run that meets no number out of range is one of
the loose grammar, which takes every document whole: had it stopped before the last good character,
it would stop there in the document as well. -/
namespace CommittedChoice.Json

variable {convert : String → Option Number} {input : String}
  {viable text surplus rest : List Char} {middle after : State} {value : Json}
  {expected : Expected} {fuel : Nat}

theorem exists_solid (text : List Char) :
    ∃ blank left, text = blank ++ left ∧ Blank blank ∧ Solid left := by
  refine ⟨text.takeWhile Text.isSpace, text.dropWhile Text.isSpace,
    List.takeWhile_append_dropWhile.symm, List.all_eq_true.mp List.all_takeWhile, ?_⟩
  intro char head
  have stopped := List.head?_dropWhile_not Text.isSpace text
  rw [Option.mem_def.mp head] at stopped
  simpa using stopped

theorem DocumentText.append {blank : List Char} (known : DocumentText text) (spaced : Blank blank) :
    DocumentText (text ++ blank) := by
  obtain ⟨convert, value, structured, before, read⟩ := known
  refine ⟨convert, value, structured, ?_⟩
  rw [List.append_assoc]
  exact .mk before (read.append spaced)

theorem viable_nil : Viable DocumentText [] := by
  have empty : Lexeme (ValueText (fun _ => none) StringText) (.array []) "[]".toList :=
    .bare (.array (.mk (.mk blank_nil) .nil))
  exact ⟨"[]".toList, _, .array [], trivial, .mk blank_nil empty⟩

/-- A document at the start of a source is taken as far as to the white space after it. -/
theorem replies_document (convert : String → Option Number) (known : DocumentText text)
    (solid : Solid surplus) (split : input.toList = text ++ surplus) : ∃ value after,
      (bodyText (.rule ())).Replies (rules (orZero convert)) (.start input)
        (.success value, after) ∧
      after.cursor = Text.size text := by
  obtain ⟨value, taken⟩ := takes_bodyText known solid (Nat.lt_succ_self _)
  have splits : (State.start input).Splits [] (text ++ surplus) := ⟨split, rfl⟩
  obtain ⟨after, run, _, splits'⟩ := taken splits
  exact ⟨value, after, ⟨_, run⟩, splits'.cursor⟩

theorem replies_whole (convert : String → Option Number) (complete : DocumentText text) :
    ∃ value after,
      (bodyText (.rule ())).Replies (rules (orZero convert)) (.start (.ofList text))
        (.success value, after) ∧
      after.cursor = Text.size text :=
  replies_document convert complete ended_nil.solid
    (String.toList_ofList.trans (List.append_nil text).symm)

/-- Only white space makes a document a longer one: the shorter is taken first in both. -/
theorem eq_nil_of_solid (complete : DocumentText text) (solid : Solid rest)
    (longer : DocumentText (text ++ rest)) : rest = [] := by
  obtain ⟨_, _, short, near⟩ :=
    replies_document (fun _ => none) complete solid String.toList_ofList
  obtain ⟨_, _, long, far⟩ := replies_whole (fun _ => none) longer
  cases short.unique long
  rw [near, Text.size_append] at far
  exact Text.size_eq_zero.mp (by omega)

/-- Whatever the strict grammar has consumed belongs to a text that begins a document. -/
theorem marked_within {reply : Reply Json}
    (run : (bodyText (.rule ())).run (rules convert) fuel (.start input) = some reply) :
    ∀ mark ∈ reply.2.furthest, ∃ seen char left, input.toList = seen ++ char :: left ∧
      mark = Text.size seen ∧ Viable DocumentText (seen ++ [char]) := by
  intro mark marked
  have track := Grammar.run_tracked (rules convert) fuel (bodyText (.rule ())) run
  rcases track.mem_of_furthest marked with ⟨⟨⟩⟩ | ⟨event, member, act, rfl⟩
  have explored : (Grammar.log (rules convert) fuel (bodyText (.rule ()))).Explores
      (Viable DocumentText) :=
    explores_bodyText ((rules convert).parser_local fuel fuel) (yields_rule fuel fuel)
      (explores_rule fuel fuel)
  obtain ⟨seen, char, left, split, place, word⟩ :=
    explored (State.splits_start input) event member act
  exact ⟨seen, char, left, split, place.trans (Nat.zero_add _), word⟩

/-- A run that fails has come to the last character that begins a document: a shorter one would
fail on the document as well. -/
theorem failure_marked {seen left : List Char} {last : Char}
    (replies : (bodyText (.rule ())).Replies (rules (orZero convert)) (.start input)
      (.failure expected, after))
    (split : input.toList = seen ++ last :: left) (complete : DocumentText (seen ++ last :: rest)) :
    ∃ mark ∈ after.furthest, Text.size seen ≤ mark := by
  obtain ⟨trip, _, rfl, same⟩ := replies.seen (State.splits_start input)
  rw [(State.follow_start input trip).1]
  apply Classical.byContradiction
  intro near
  have sees : trip.Sees input.toList (seen ++ last :: rest) := by
    rw [split]
    exact .upTo fun mark marked => Nat.lt_of_not_le fun far => near ⟨mark, marked, far⟩
  have splits : (State.start (.ofList (seen ++ last :: rest))).Splits [] (seen ++ last :: rest) :=
    ⟨String.toList_ofList, rfl⟩
  obtain ⟨_, _, succeeded, _⟩ := replies_whole convert complete
  cases (same sees splits).unique succeeded

theorem located_failure (longest : LongestViable DocumentText input.toList viable)
    (replies : (bodyText (.rule ())).Replies (rules (orZero convert)) (.start input)
      (.failure expected, after))
    (within : ∀ mark ∈ after.furthest, viable ≠ [] ∧ mark ≤ Text.size viable.dropLast) :
    ¬DocumentText viable ∧ after.furthest.getD after.cursor = Text.size viable.dropLast := by
  obtain ⟨surplus, split⟩ := longest.initial
  refine ⟨fun complete => ?_, ?_⟩
  · obtain ⟨blank, left, rfl, spaced, solid⟩ := exists_solid surplus
    obtain ⟨value, _, succeeded, _⟩ := replies_document convert (complete.append spaced) solid
      (split.symm.trans (List.append_assoc _ _ _).symm)
    cases replies.unique succeeded
  · rcases List.eq_nil_or_concat viable with rfl | ⟨seen, last, rfl⟩
    · have unmarked : after.furthest = none :=
        Option.eq_none_iff_forall_not_mem.mpr fun mark marked => (within mark marked).1 rfl
      obtain ⟨trip, known, rfl, _⟩ := replies.seen (State.splits_start input)
      rw [(State.follow_start input trip).1] at unmarked
      rw [(State.follow_start input trip).1, (State.follow_start input trip).2, unmarked,
        known.taken_eq_nil unmarked]
      rfl
    · obtain ⟨rest, complete⟩ := longest.begins
      rw [List.concat_eq_append, List.append_assoc] at split complete
      obtain ⟨mark, marked, far⟩ := failure_marked replies split.symm complete
      have near := (within mark marked).2
      rw [List.concat_eq_append, List.dropLast_concat] at near ⊢
      rw [Option.mem_def.mp marked]
      exact Nat.le_antisymm near far

/-- No text that begins a document goes on behind a document that was read: the run would go on as
well. -/
theorem viable_eq_document (longest : LongestViable DocumentText input.toList viable)
    (replies : (bodyText (.rule ())).Replies (rules (orZero convert)) (.start input)
      (.success value, after))
    (complete : DocumentText text) (split : input.toList = text ++ surplus)
    (place : after.cursor = Text.size text) : viable = text := by
  have initial : text <+: input.toList := ⟨surplus, split.symm⟩
  obtain ⟨more, rfl⟩ : text <+: viable := List.prefix_of_prefix_length_le initial longest.initial
    (longest.longest text initial (viable_whole complete))
  obtain ⟨blank, left, rfl, spaced, solid⟩ := exists_solid surplus
  obtain ⟨_, _, replies', place'⟩ := replies_document convert (complete.append spaced) solid
    (split.trans (List.append_assoc _ _ _).symm)
  cases replies.unique replies'
  have bare : blank = [] := by
    rw [place, Text.size_append] at place'
    exact Text.size_eq_zero.mp (by omega)
  subst bare
  cases more with
  | nil => exact List.append_nil text
  | cons char more =>
    obtain ⟨others, split'⟩ := longest.initial
    obtain ⟨rest, longer⟩ := longest.begins
    rw [List.append_assoc] at split' longer
    obtain rfl : char :: more ++ others = left := List.append_cancel_left (split'.trans split)
    have solid' : Solid (char :: more ++ rest) := solid
    cases eq_nil_of_solid complete solid' longer

theorem yields_bodyText (fuel : Nat) :
    ((bodyText (.rule ())).run (rules convert) fuel).Yields fun _ text => DocumentText text :=
  Grammar.yields_spaces.seqRight fun _ _ spaced =>
    (yields_structured ((rules convert).parser_local fuel fuel) (yields_rule fuel fuel)).mono
      fun value _ ⟨structured, read⟩ => ⟨convert, value, structured, .mk spaced read⟩

/-- The end of the source refuses the first character behind the document. -/
theorem located_surplus (longest : LongestViable DocumentText input.toList viable)
    (replies : (bodyText (.rule ())).Replies (rules (orZero convert)) (.start input)
      (.success value, middle))
    (complete : DocumentText text) (split : input.toList = text ++ surplus)
    (splits : middle.Splits text surplus)
    (within : ∀ mark ∈ middle.furthest, viable ≠ [] ∧ mark ≤ Text.size viable.dropLast)
    (closed : Grammar.eof.run (rules convert) fuel middle = some (.failure expected, after)) :
    viable = text ∧ surplus ≠ [] ∧ after.furthest.getD after.cursor = Text.size text := by
  obtain rfl := viable_eq_document longest replies complete split splits.cursor
  refine ⟨rfl, ?_, ?_⟩
  · rintro rfl
    have taken : (Grammar.eof.run (rules convert) fuel).Takes [] [] (.success ()) :=
      Grammar.takes_eof
    obtain ⟨_, ended, _⟩ := taken splits
    cases closed.symm.trans ended
  · rw [Grammar.eof_failure closed, Option.getD_some, ← splits.cursor]
    refine State.deepest_of_le fun mark marked => ?_
    rw [splits.cursor]
    exact Nat.le_trans (within mark marked).2 (Text.size_dropLast_le viable)

theorem located_of_error {failure : Failure}
    (rejected : parse? convert input = some (.error failure))
    (ranged : Spared outOfRange
      ((document (.rule ())).log (rules convert) (Grammar.ampleFuel 1 input) (.start input)))
    (longest : LongestViable DocumentText input.toList viable)
    (split : input.toList = viable ++ surplus) :
    ¬DocumentText viable ∧ failure.offset = Text.size viable.dropLast ∨
      DocumentText viable ∧ surplus ≠ [] ∧ failure.offset = Text.size viable := by
  obtain ⟨after, run, same⟩ := Grammar.parse_error rejected
  have offset : failure.offset = after.furthest.getD after.cursor := congrArg Failure.offset same
  rw [offset]
  obtain ⟨⟨outcome, middle⟩, body, rest⟩ := Option.bind_eq_some_iff.mp run
  have replies : (bodyText (.rule ())).Replies (rules (orZero convert)) (.start input)
      (outcome, middle) :=
    ⟨_, mends_run _ _ _ body fun event member => ranged event (List.mem_append_left _ member)⟩
  have within : ∀ mark ∈ middle.furthest, viable ≠ [] ∧ mark ≤ Text.size viable.dropLast := by
    intro mark marked
    obtain ⟨seen, char, left, split, rfl, word⟩ := marked_within body mark marked
    exact longest.size_le split word
  cases outcome with
  | failure expected =>
    cases rest
    exact .inl (located_failure longest replies within)
  | success value =>
    obtain ⟨text, left, split', splits, complete⟩ :=
      yields_bodyText _ (State.splits_start input) body
    obtain ⟨⟨_ | _, last⟩, closed, rest'⟩ := Option.bind_eq_some_iff.mp rest
    · cases rest'
      obtain ⟨rfl, some, place⟩ :=
        located_surplus longest replies complete split' splits within closed
      obtain rfl := List.append_cancel_left (split'.symm.trans split)
      exact .inr ⟨complete, some, place⟩
    · cases rest'

/-- The first error is located exactly, whatever branches were tried and given back. With the
longest text that begins a document, the offset is 0 when it is empty, just behind it when it is a
document itself, and else that of its last character. -/
theorem parse_located (rejected : ∀ value, parse? convert input ≠ some (.ok value))
    (ranged : ∀ event ∈ (document (.rule ())).log (rules convert) (Grammar.ampleFuel 1 input)
      (.start input), event.act ≠ .refuse (.label "number in range")) :
    ∃ failure viable surplus, parse? convert input = some (.error failure) ∧
      input.toList = viable ++ surplus ∧ LongestViable DocumentText input.toList viable ∧
      (viable = [] → failure.offset = 0) ∧
      (DocumentText viable →
        failure.offset = Text.size viable ∧ surplus ≠ [] ∧ failure.found = surplus.head?) ∧
      (viable ≠ [] → ¬DocumentText viable → failure.offset = Text.size viable.dropLast) := by
  obtain ⟨failure, ended⟩ : ∃ failure, parse? convert input = some (.error failure) := by
    obtain ⟨failure | value, ended⟩ := parse?_isSome convert input
    · exact ⟨failure, ended⟩
    · exact absurd ended (rejected value)
  obtain ⟨viable, longest⟩ := exists_longestViable input.toList viable_nil
  obtain ⟨surplus, split⟩ := longest.initial
  refine ⟨failure, viable, surplus, ended, split.symm, longest, ?_⟩
  rcases located_of_error ended ranged longest split.symm with
    ⟨incomplete, place⟩ | ⟨complete, some, place⟩
  · refine ⟨?_, fun complete => absurd complete incomplete, fun _ _ => place⟩
    rintro rfl
    exact place
  · refine ⟨?_, fun _ => ⟨place, some, ?_⟩, fun _ incomplete => absurd complete incomplete⟩
    · rintro rfl
      exact place
    · rw [Grammar.found_eq ended, place, Text.charAt?_eq_head? split.symm]

/-- The comma and the broken value after it are given back, and the diagnostic still points at the
last good character. -/
theorem broken_value_located :
    parse? Number.ofText? "[1,tru]" = some (.error ⟨.label "\"]\"", 5, some 'u'⟩) ∧
      ∃ failure viable surplus, parse? Number.ofText? "[1,tru]" = some (.error failure) ∧
        "[1,tru]".toList = viable ++ surplus ∧
        LongestViable DocumentText "[1,tru]".toList viable ∧
        (viable = [] → failure.offset = 0) ∧
        (DocumentText viable →
          failure.offset = Text.size viable ∧ surplus ≠ [] ∧ failure.found = surplus.head?) ∧
        (viable ≠ [] → ¬DocumentText viable → failure.offset = Text.size viable.dropLast) := by
  have ended : parse? Number.ofText? "[1,tru]" =
      some (.error ⟨.label "\"]\"", 5, some 'u'⟩) := by rfl
  refine ⟨ended, parse_located (fun value accepted => ?_) (by decide)⟩
  cases ended.symm.trans accepted

end CommittedChoice.Json
