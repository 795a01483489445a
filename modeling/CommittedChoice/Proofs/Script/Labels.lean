import CommittedChoice.Proofs.Formats.Labels
import CommittedChoice.Script.Session

/-! Whatever a script describes is well labelled: the labels of a failure are given as a list, and
are merged one by one. -/
namespace CommittedChoice.Script

theorem CharNode.wellLabelled (kind : CharNode) : kind.grammar.WellLabelled := by
  cases kind <;> trivial

theorem ListStyle.wellLabelled {α β : Type} {item : ScriptGrammar α} {separator : ScriptGrammar β}
    (items : item.WellLabelled) (separators : separator.WellLabelled) (style : ListStyle) :
    (style.grammar item separator).WellLabelled := by
  cases style <;> exact ⟨items, separators⟩

theorem wellLabelled_nested :
    (Grammar.rule RuleName.jsonValue : ScriptGrammar Json).WellLabelled :=
  trivial

mutual

theorem Node.wellLabelled : (node : Node) → node.grammar.WellLabelled
  | .pure _ | .consumeOne | .char _ | .satisfy _ | .oneOf _ | .noneOf _ | .spaces
  | .literal _ | .rule _ => trivial
  | .fail labels => Expected.made_ofLabels labels
  | .eof => ⟨trivial, trivial⟩
  | .charClass kind => kind.wellLabelled
  | .map _ node => node.wellLabelled
  | .bind node next => ⟨node.wellLabelled, next.wellLabelled⟩
  | .seqRight first second => ⟨first.wellLabelled, second.wellLabelled⟩
  | .seqLeft first second => ⟨first.wellLabelled, second.wellLabelled⟩
  | .seqPair first second => ⟨first.wellLabelled, second.wellLabelled⟩
  | .between opening closing node =>
    ⟨opening.wellLabelled, closing.wellLabelled, node.wellLabelled⟩
  | .recognize node => node.wellLabelled
  | .orElse first others => Node.wellLabelled_joined others first.wellLabelled
  | .choice nodes => Grammar.wellLabelled_choiceOf (Node.wellLabelled_grammars nodes)
  | .attempt node => node.wellLabelled
  | .lookAhead node => node.wellLabelled
  | .notFollowedBy node => node.wellLabelled
  | .notBefore node next => ⟨node.wellLabelled, next.wellLabelled⟩
  | .label _ node => node.wellLabelled
  | .later node => node.wellLabelled
  | .option _ node => node.wellLabelled
  | .optional node => node.wellLabelled
  | .count _ node => node.wellLabelled
  | .many node => node.wellLabelled
  | .many1 node => node.wellLabelled
  | .manyTill node terminator => ⟨node.wellLabelled, terminator.wellLabelled⟩
  | .separated style item separator => style.wellLabelled item.wellLabelled separator.wellLabelled
  | .csv separator => Csv.wellLabelled_table separator
  | .jsonText => Json.wellLabelled_document wellLabelled_nested
  | .jsonValue => Json.wellLabelled_value wellLabelled_nested

theorem Node.wellLabelled_grammars :
    (nodes : List Node) → ∀ g ∈ Node.grammars nodes, g.WellLabelled
  | [] => nofun
  | node :: nodes => List.forall_mem_cons.mpr ⟨node.wellLabelled, Node.wellLabelled_grammars nodes⟩

theorem Node.wellLabelled_joined {first : ScriptGrammar Value} :
    (others : List Node) → first.WellLabelled → (Node.joined first others).WellLabelled
  | [], labelled => labelled
  | node :: nodes, labelled => Node.wellLabelled_joined nodes ⟨labelled, node.wellLabelled⟩

theorem Continuation.wellLabelled :
    (next : Continuation) → ∀ value, (next.grammar value).WellLabelled
  | .pure, _ | .again, _ => trivial
  | .const node, _ => node.wellLabelled
  | .count node, _ => node.wellLabelled
  | .failContent, value => .label value.content
  | .cases branches, value => branches.wellLabelled value.content
  | .append node, _ => node.wellLabelled

theorem Branches.wellLabelled :
    (branches : Branches) → ∀ found, (branches.grammar found).WellLabelled
  | .otherwise node, _ => node.wellLabelled
  | .case content node others, found => by
    rw [Branches.grammar]
    split
    · exact node.wellLabelled
    · exact others.wellLabelled found

end

theorem rules_wellLabelled (definitions : Definitions) (name : RuleName) :
    (rules definitions name).WellLabelled := by
  cases name with
  | jsonValue => exact Json.wellLabelled_value wellLabelled_nested
  | named name =>
    simp only [rules]
    split
    · exact Node.wellLabelled _
    · exact .nothing

end CommittedChoice.Script
