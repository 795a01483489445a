import CommittedChoice.Csv
import CommittedChoice.Json.Conversion
import CommittedChoice.Json.Syntax
import CommittedChoice.Script.Value

/-! Grammars written as data. A node names a combinator and its operands, and stands for a grammar
that yields a `Value`; rules are found by name. -/
namespace CommittedChoice.Script

/-- Grammars for one character that need no parameter. -/
inductive CharNode where
  | any
  | digit
  | hexDigit
  | octDigit
  | upper
  | lower
  | letter
  | alphaNum
  | space
  | newline
  | crlf
  | endOfLine
  | tab
  | peeked
  deriving DecidableEq

/-- How items and separators alternate in a list. -/
inductive ListStyle where
  | sepBy
  | sepBy1
  | endBy
  | endBy1
  | sepEndBy
  | sepEndBy1
  deriving DecidableEq

mutual

inductive Node where
  | pure (value : Value)
  | fail (labels : List String)
  | consumeOne
  | eof
  | charClass (kind : CharNode)
  | char (c : Char)
  | satisfy (ranges : List (Char × Char))
  | oneOf (set : String)
  | noneOf (set : String)
  | spaces
  | literal (text : String)
  | map (f : Transform) (node : Node)
  | bind (node : Node) (next : Continuation)
  | seqRight (first second : Node)
  | seqLeft (first second : Node)
  | seqPair (first second : Node)
  | between (opening closing node : Node)
  | recognize (node : Node)
  /-- Alternatives joined two by two from the left; there is at least one. -/
  | orElse (first : Node) (others : List Node)
  | choice (nodes : List Node)
  | attempt (node : Node)
  | lookAhead (node : Node)
  | notFollowedBy (node : Node)
  | notBefore (node next : Node)
  | label (text : String) (node : Node)
  | later (node : Node)
  | option (default : Value) (node : Node)
  | optional (node : Node)
  | count (times : Nat) (node : Node)
  | many (node : Node)
  | many1 (node : Node)
  | manyTill (node terminator : Node)
  | separated (style : ListStyle) (item separator : Node)
  | rule (name : String)
  | csv (separator : Char)
  | jsonText
  | jsonValue

/-- What follows a node, chosen by its value. -/
inductive Continuation where
  | pure
  | const (node : Node)
  | again
  | count (node : Node)
  | failContent
  | cases (branches : Branches)
  | append (node : Node)

/-- Nodes by the content of a value, tried in order, and the node for any other content. -/
inductive Branches where
  | otherwise (node : Node)
  | case (content : String) (node : Node) (others : Branches)

end

inductive RuleName where
  | jsonValue
  | named (name : String)
  deriving DecidableEq

abbrev RuleName.Yield : RuleName → Type
  | .jsonValue => Json
  | .named _ => Value

abbrev ScriptGrammar : Type → Type 1 := Grammar RuleName.Yield

def CharNode.grammar : CharNode → ScriptGrammar Char
  | .any => .anyChar
  | .digit => .digit
  | .hexDigit => .hexDigit
  | .octDigit => .octDigit
  | .upper => .upper
  | .lower => .lower
  | .letter => .letter
  | .alphaNum => .alphaNum
  | .space => .space
  | .newline => .newline
  | .crlf => .crlf
  | .endOfLine => .endOfLine
  | .tab => .tab
  | .peeked => .readChar

def ListStyle.grammar {α β : Type} (item : ScriptGrammar α) (separator : ScriptGrammar β) :
    ListStyle → ScriptGrammar (List α)
  | .sepBy => .sepBy item separator
  | .sepBy1 => .sepBy1 item separator
  | .endBy => .endBy item separator
  | .endBy1 => .endBy1 item separator
  | .sepEndBy => .sepEndBy item separator
  | .sepEndBy1 => .sepEndBy1 item separator

/-- One to three digits are a number of times; any other text counts as zero. -/
def timesOf (content : String) : Nat :=
  let digits := content.toList
  if 1 ≤ digits.length ∧ digits.length ≤ 3 ∧ digits.all Char.isDigit then
    digits.foldl (fun times digit => times * 10 + (digit.toNat - '0'.toNat)) 0
  else 0

def inRanges (ranges : List (Char × Char)) (c : Char) : Bool :=
  ranges.any fun range => range.1 ≤ c && c ≤ range.2

def tableValue (rows : List (List String)) : Value :=
  .list (rows.map fun cells => .list (cells.map .text))

mutual

def Node.grammar : Node → ScriptGrammar Value
  | .pure value => .pure value
  | .fail labels => .fail (.ofLabels labels)
  | .consumeOne => .map (fun _ => .unit) .consumeOne
  | .eof => .map (fun _ => .unit) .eof
  | .charClass kind => .map .char kind.grammar
  | .char c => .map .char (.char c)
  | .satisfy ranges => .map .char (.satisfy (inRanges ranges))
  | .oneOf set => .map .char (.oneOf set)
  | .noneOf set => .map .char (.noneOf set)
  | .spaces => .map (fun _ => .unit) .spaces
  | .literal text => .map .text (.literal text)
  | .map f node => .map f.apply node.grammar
  | .bind node next => .bind node.grammar next.grammar
  | .seqRight first second => .seqRight first.grammar second.grammar
  | .seqLeft first second => .seqLeft first.grammar second.grammar
  | .seqPair first second =>
    .map (fun values => .pair values.1 values.2) (.seqPair first.grammar second.grammar)
  | .between opening closing node =>
    .between opening.grammar closing.grammar node.grammar
  | .recognize node => .map .text (.recognize node.grammar)
  | .orElse first others => Node.joined first.grammar others
  | .choice nodes => .choiceOf (Node.grammars nodes)
  | .attempt node => .attempt node.grammar
  | .lookAhead node => .lookAhead node.grammar
  | .notFollowedBy node => .map (fun _ => .unit) (.notFollowedBy node.grammar)
  | .notBefore node next => .notBefore node.grammar next.grammar
  | .label text node => .label text node.grammar
  | .later node => .later fun _ => node.grammar
  | .option default node => .option default node.grammar
  | .optional node => .map (fun _ => .unit) (.optional node.grammar)
  | .count times node => .map .list (.count times node.grammar)
  | .many node => .map .list (.many node.grammar)
  | .many1 node => .map .list (.many1 node.grammar)
  | .manyTill node terminator => .map .list (.manyTill node.grammar terminator.grammar)
  | .separated style item separator =>
    .map .list (style.grammar item.grammar separator.grammar)
  | .rule name => .rule (RuleName.named name)
  | .csv separator => .map tableValue (Csv.table separator)
  | .jsonText => .map .json (Json.document (.rule RuleName.jsonValue))
  | .jsonValue => .map .json (Json.valueText Json.Number.ofText? (.rule RuleName.jsonValue))

def Node.grammars : List Node → List (ScriptGrammar Value)
  | [] => []
  | node :: nodes => node.grammar :: Node.grammars nodes

def Node.joined (first : ScriptGrammar Value) : List Node → ScriptGrammar Value
  | [] => first
  | node :: nodes => Node.joined (.orElse first node.grammar) nodes

def Continuation.grammar : Continuation → Value → ScriptGrammar Value
  | .pure, value => .pure value
  | .const node, _ => node.grammar
  | .again, value => .map .text (.literal value.content)
  | .count node, value => .map .list (.count (timesOf value.content) node.grammar)
  | .failContent, value => .fail (.label value.content)
  | .cases branches, value => branches.grammar value.content
  | .append node, value =>
    .map (fun added => .text (value.content ++ added.content)) node.grammar

def Branches.grammar : Branches → String → ScriptGrammar Value
  | .otherwise node, _ => node.grammar
  | .case content node others, found =>
    if found = content then node.grammar else others.grammar found

end

end CommittedChoice.Script
