import Literate.Script.Literal

/-! # The grammar of extension code

The alternatives of every rule. A rule whose name starts with `wrong` describes a mistake that people
make, and its alternatives end in the complaint about it; such a rule never matches.

The grammar covers more of the language than can be run, since what a mistake is called depends on
everything that could have stood in its place. -/

namespace Literate.Script

open Rule Item

/-! ### Tokens -/

def aName : Item := .one .name
def aNumber : Item := .one .number
def aText : Item := .one .text
def newline : Item := .one .newline
def indent : Item := .one .indent
/-- The end of an indented block. -/
def dedent : Item := .one .dedent
/-- The end of the program. -/
def finish : Item := .one .finish
def either (a b : Item) : Item := choice [[a], [b]]
/-- One of three items. -/
def oneOf (a b c : Item) : Item := choice [[a], [b], [c]]
/-- An item that may be missing. -/
def perhaps (i : Item) : Item := maybe [[i]]

/-! ### Statements -/

def asName : Item := maybe [["as", aName, pick 1]]

def bases : Item := maybe [["(", perhaps arguments, ")", pick 1]]

/-- The type behind the arrow of a definition. -/
def arrow : Item := maybe [["->", expression, pick 1]]

/-- Managers of a `with` statement, by an expression rule. -/
def managers (r : Rule) : Item := joined "," (choice [[r, maybe [["as", target]]]])

def statementAlternatives : Rule → List (List Item)
  | program => [[perhaps statements, finish, pick 0]]
  | alone => [[expressions, each newline, finish, pick 0]]
  | template => [[starExpressions]]
  | statements => [[several statement]]
  | statement => [[compoundStatement], [simpleStatements]]
  | simpleStatements =>
    [[simpleStatement, notAhead ";", newline, build .line],
     [joined ";" simpleStatement, perhaps ";", newline, build .line]]
  | simpleStatement =>
    [[assignment],
     [starExpressions, build .evaluate],
     [ahead "return", returnStatement],
     [ahead (either "import" "from"), importStatement],
     [ahead "raise", raiseStatement],
     ["pass", build .pass],
     [ahead "del", delStatement],
     [ahead "yield", yieldStatement],
     [ahead "assert", assertStatement],
     ["break", build .leave],
     ["continue", build .leave],
     [ahead "global", globalStatement],
     [ahead "nonlocal", nonlocalStatement]]
  | compoundStatement =>
    [[ahead (oneOf "def" "@" "async"), functionDefinition],
     [ahead "if", ifStatement],
     [ahead (either "class" "@"), classDefinition],
     [ahead (either "with" "async"), withStatement],
     [ahead (either "for" "async"), forStatement],
     [ahead "try", tryStatement],
     [ahead "while", whileStatement],
     [matchStatement]]
  | assignment =>
    [[aName, ":", expression, maybe [["=", annotatedValue, pick 1]], build .annotate],
     [choice [["(", singleTarget, ")", pick 1], [singleMember]], ":", expression,
       maybe [["=", annotatedValue, pick 1]], build .annotatePart],
     [several (choice [[targets, "=", pick 0]]), either yieldExpression starExpressions, notAhead "=",
       build .assign],
     [singleTarget, augment, commit, either yieldExpression starExpressions, build .augment],
     [mistake wrongAssignment]]
  | annotatedValue => [[yieldExpression], [starExpressions]]
  | augment =>
    [["+="], ["-="], ["*="], ["@="], ["/="], ["%="], ["&="], ["|="], ["^="], ["<<="], [">>="], ["**="],
     ["//="]]
  | returnStatement => [["return", perhaps starExpressions, build .give]]
  | raiseStatement =>
    [["raise", expression, maybe [["from", expression, pick 1]], build .raise], ["raise", build .raise]]
  | globalStatement => [["global", joined "," aName, build .global]]
  | nonlocalStatement => [["nonlocal", joined "," aName, build .nonlocal]]
  | delStatement =>
    [["del", delTargets, ahead (either ";" newline), build .delete], [mistake wrongDel]]
  | yieldStatement => [[yieldExpression, build .evaluate]]
  | assertStatement => [["assert", expression, maybe [[",", expression, pick 1]], build .assert]]
  | importStatement => [["import", joined "," dottedAs, build .importing], [importFrom]]
  | importFrom =>
    [["from", each (either "." "..."), dottedName, "import", importTargets, build .importingFrom],
     ["from", several (either "." "..."), "import", importTargets, build .importingFrom]]
  | importTargets =>
    [["(", importNames, perhaps ",", ")", pick 1], [importNames, notAhead ","], ["*"],
     [mistake wrongImport]]
  | importNames => [[joined "," importAs]]
  | importAs => [[aName, asName, build .renamed]]
  | dottedAs => [[dottedName, asName, build .renamed]]
  | dottedName => [[dottedName, ".", aName, build .dotted], [aName]]
  | block => [[newline, indent, statements, dedent, pick 2], [simpleStatements], [mistake wrongBlock]]
  | decorators => [[several (choice [["@", namedExpression, newline, pick 1]])]]
  | classDefinition => [[decorators, classBody, build .decorated], [classBody]]
  | classBody => [[mistake wrongClass], ["class", aName, bases, ":", block, build .classBody]]
  | functionDefinition => [[decorators, functionBody, build .decorated], [functionBody]]
  | functionBody =>
    [[mistake wrongFunction],
     ["def", aName, forced "(", perhaps parameterList, ")", arrow, forced ":", block, build .define],
     ["async", "def", aName, forced "(", perhaps parameterList, ")", arrow, forced ":", block,
       build .asyncDefine]]
  | ifStatement =>
    [[mistake wrongIf],
     ["if", namedExpression, ":", block, elifStatement, build .condition],
     ["if", namedExpression, ":", block, perhaps elseBlock, build .condition]]
  | elifStatement =>
    [[mistake wrongElif],
     ["elif", namedExpression, ":", block, elifStatement, build .condition],
     ["elif", namedExpression, ":", block, perhaps elseBlock, build .condition]]
  | elseBlock => [[mistake wrongElse], ["else", forced ":", block, build .otherwise]]
  | whileStatement =>
    [[mistake wrongWhile], ["while", namedExpression, ":", block, perhaps elseBlock, build .whileLoop]]
  | forStatement =>
    [[mistake wrongFor],
     ["for", targets, "in", commit, starExpressions, ":", block, perhaps elseBlock, build .forLoop],
     ["async", "for", targets, "in", commit, starExpressions, ":", block, perhaps elseBlock,
       build .asyncFor],
     [mistake wrongForTarget]]
  | withStatement =>
    [[mistake wrongWithBlock],
     ["with", "(", joined "," withItem, perhaps ",", ")", ":", block, build .within],
     ["with", joined "," withItem, ":", block, build .within],
     ["async", "with", "(", joined "," withItem, perhaps ",", ")", ":", block, build .asyncWithin],
     ["async", "with", joined "," withItem, ":", block, build .asyncWithin],
     [mistake wrongWith]]
  | withItem =>
    [[expression, "as", target, ahead (oneOf "," ")" ":"), build .withinAs],
     [mistake wrongWithItem],
     [expression]]
  | tryStatement =>
    [[mistake wrongTry],
     ["try", forced ":", block, finallyBlock, build .attempt],
     ["try", forced ":", block, several exceptBlock, perhaps elseBlock, perhaps finallyBlock,
       build .attempt],
     ["try", forced ":", block, several exceptStarBlock, perhaps elseBlock, perhaps finallyBlock,
       build .attemptGroup]]
  | exceptBlock =>
    [[mistake wrongExceptBlock],
     ["except", expression, asName, ":", block, build .handler],
     ["except", ":", block, build .handler],
     [mistake wrongExcept]]
  | exceptStarBlock =>
    [[mistake wrongExceptStarBlock],
     ["except", "*", expression, asName, ":", block, build .handler],
     [mistake wrongExcept]]
  | finallyBlock => [[mistake wrongFinally], ["finally", forced ":", block, build .final]]
  | matchStatement =>
    [[soft "match", subject, ":", newline, indent, several caseBlock, dedent, build .matching],
     [mistake wrongMatch]]
  | caseBlock =>
    [[mistake wrongCase],
     [soft "case", patterns, maybe [["if", namedExpression, pick 1]], ":", block, build .caseBlock]]
  | subject =>
    [[starNamedExpression, ",", perhaps starNamedExpressions, build .tuple], [namedExpression]]
  | _ => []

/-! ### Patterns -/

/-- The alternatives of the rules for the patterns of cases. -/
def patternAlternatives : Rule → List (List Item)
  | patterns => [[openSequence, build .sequencePattern], [pattern]]
  | openSequence => [[sequenceItem, ",", perhaps sequenceItems, build .arguments]]
  | sequenceItems => [[joined "," sequenceItem, perhaps ",", pick 0]]
  | sequenceItem => [[starPattern], [pattern]]
  | starPattern =>
    [["*", captureTarget, build .starPattern], ["*", soft "_", build .starPattern]]
  | pattern => [[asPattern], [orPattern]]
  | asPattern => [[orPattern, "as", captureTarget, build .asPattern], [mistake wrongAsPattern]]
  | orPattern => [[joined "|" closedPattern, build .orPattern]]
  | closedPattern =>
    [[literalPattern],
     [captureTarget, build .capture],
     [soft "_", build .wildcard],
     [valuePath, notAhead (oneOf "." "(" "=")],
     [choice [["(", pattern, ")", pick 1]]],
     [sequencePattern],
     [mappingPattern],
     [classPattern]]
  | literalPattern =>
    [[signedNumber, notAhead (either "+" "-")], [complexNumber], [texts], ["None"], ["True"], ["False"]]
  | signedNumber => [[plainNumber], ["-", plainNumber, build .unary]]
  | plainNumber => [[aNumber, verify checkNumber]]
  | realNumber => [[plainNumber, verify (checkPart false)]]
  | signedReal => [[realNumber], ["-", realNumber, build .unary]]
  | imaginaryNumber => [[plainNumber, verify (checkPart true)]]
  | complexNumber =>
    [[signedReal, "+", imaginaryNumber, build .binary], [signedReal, "-", imaginaryNumber, build .binary]]
  | captureTarget => [[notAhead (soft "_"), aName, notAhead (oneOf "." "(" "=")]]
  | valuePath => [[namePath, ".", aName, build .member]]
  | namePath => [[valuePath], [aName]]
  | sequencePattern =>
    [["[", perhaps sequenceItems, "]", build .sequencePattern],
     ["(", perhaps openSequence, ")", build .sequencePattern]]
  | mappingPattern =>
    [["\x7b", "\x7d", build .mappingPattern],
     ["\x7b", restPattern, perhaps ",", "\x7d", build .mappingPattern],
     ["\x7b", entryPatterns, ",", restPattern, perhaps ",", "\x7d", build .mappingPattern],
     ["\x7b", entryPatterns, perhaps ",", "\x7d", build .mappingPattern]]
  | entryPatterns => [[joined "," entryPattern]]
  | entryPattern => [[either literalPattern valuePath, ":", pattern, build .entryPattern]]
  | restPattern => [["**", captureTarget, build .restPattern]]
  | classPattern =>
    [[namePath, "(", ")", build .classPattern],
     [namePath, "(", positionalPatterns, perhaps ",", ")", build .classPattern],
     [namePath, "(", keywordPatterns, perhaps ",", ")", build .classPattern],
     [namePath, "(", positionalPatterns, ",", keywordPatterns, perhaps ",", ")", build .classPattern],
     [mistake wrongClassPattern]]
  | positionalPatterns => [[joined "," pattern]]
  | keywordPatterns => [[joined "," keywordPattern]]
  | keywordPattern => [[aName, "=", pattern, build .keywordPattern]]
  | _ => []

/-! ### Parameters -/

/-- The alternatives of the rules for the parameters of definitions. -/
def parameterAlternatives : Rule → List (List Item)
  | parameterList => [[mistake wrongParameters], [parameters]]
  | parameters =>
    [[slashPlain, each plainParameter, each defaultParameter, perhaps starParameters, build .parameters],
     [slashDefault, each defaultParameter, perhaps starParameters, build .parameters],
     [several plainParameter, each defaultParameter, perhaps starParameters, build .parameters],
     [several defaultParameter, perhaps starParameters, build .parameters],
     [starParameters, build .parameters]]
  | slashPlain =>
    [[several plainParameter, "/", ",", build .slash], [several plainParameter, "/", ahead ")", build .slash]]
  | slashDefault =>
    [[each plainParameter, several defaultParameter, "/", ",", build .slash],
     [each plainParameter, several defaultParameter, "/", ahead ")", build .slash]]
  | starParameters =>
    [[mistake wrongStar],
     ["*", plainParameter, each anyParameter, perhaps keywordParameters, build .star],
     ["*", plainStarParameter, each anyParameter, perhaps keywordParameters, build .star],
     ["*", ",", several anyParameter, perhaps keywordParameters, build .star],
     [keywordParameters]]
  | keywordParameters => [[mistake wrongKeywords], ["**", plainParameter, build .doubleStar]]
  | plainParameter => [[parameter, ",", pick 0], [parameter, ahead ")"]]
  | plainStarParameter => [[starParameter, ",", pick 0], [starParameter, ahead ")"]]
  | defaultParameter =>
    [[parameter, defaultValue, ",", build .defaulted], [parameter, defaultValue, ahead ")", build .defaulted]]
  | anyParameter =>
    [[parameter, perhaps defaultValue, ",", build .defaulted],
     [parameter, perhaps defaultValue, ahead ")", build .defaulted]]
  | parameter => [[aName, notAhead ":"], [aName, perhaps annotation, build .typed]]
  | starParameter => [[aName, starAnnotation, build .typed]]
  | annotation => [[":", expression, pick 1]]
  | starAnnotation => [[":", starExpression, pick 1]]
  | defaultValue => [["=", expression, pick 1], [mistake wrongDefault]]
  | lambdaList => [[mistake wrongLambda], [lambdaParameters]]
  | lambdaParameters =>
    [[lambdaSlashPlain, each lambdaPlain, each lambdaDefault, perhaps lambdaStar, build .parameters],
     [lambdaSlashDefault, each lambdaDefault, perhaps lambdaStar, build .parameters],
     [several lambdaPlain, each lambdaDefault, perhaps lambdaStar, build .parameters],
     [several lambdaDefault, perhaps lambdaStar, build .parameters],
     [lambdaStar, build .parameters]]
  | lambdaSlashPlain =>
    [[several lambdaPlain, "/", ",", build .slash], [several lambdaPlain, "/", ahead ":", build .slash]]
  | lambdaSlashDefault =>
    [[each lambdaPlain, several lambdaDefault, "/", ",", build .slash],
     [each lambdaPlain, several lambdaDefault, "/", ahead ":", build .slash]]
  | lambdaStar =>
    [[mistake wrongLambdaStar],
     ["*", lambdaPlain, each lambdaAny, perhaps lambdaKeywords, build .star],
     ["*", ",", several lambdaAny, perhaps lambdaKeywords, build .star],
     [lambdaKeywords]]
  | lambdaKeywords => [[mistake wrongLambdaKeywords], ["**", lambdaPlain, build .doubleStar]]
  | lambdaPlain => [[lambdaParameter, ",", pick 0], [lambdaParameter, ahead ":"]]
  | lambdaDefault =>
    [[lambdaParameter, defaultValue, ",", build .defaulted],
     [lambdaParameter, defaultValue, ahead ":", build .defaulted]]
  | lambdaAny =>
    [[lambdaParameter, perhaps defaultValue, ",", build .defaulted],
     [lambdaParameter, perhaps defaultValue, ahead ":", build .defaulted]]
  | lambdaParameter => [[aName]]
  | _ => []

/-! ### Expressions -/

/-- A comparison and its right operand. -/
def comparing (s : String) : List Item := [choice [[s, bitOr, build .pair]]]

/-- A comparison of two words and its right operand. -/
def comparingBoth (s t : String) : List Item := [choice [[s, t, bitOr, build .pair]]]

/-- An argument of a call without a keyword. -/
def argument : Item :=
  choice
    [[starredExpression],
     [choice [[assignmentExpression], [expression, notAhead ":="]], notAhead "="]]

def expressionAlternatives : Rule → List (List Item)
  | expressions =>
    [[expression, several (choice [[",", expression, pick 1]]), perhaps ",", build .tuple],
     [expression, ",", build .tuple],
     [expression]]
  | expression =>
    [[mistake wrongExpression],
     [mistake wrongCall],
     [disjunction, "if", disjunction, "else", expression, build .choice],
     [disjunction],
     [lambdaExpression]]
  | plainExpression =>
    [[disjunction, "if", disjunction, "else", expression, build .choice],
     [disjunction],
     [lambdaExpression]]
  | yieldExpression =>
    [["yield", "from", expression, build .yieldFrom], ["yield", perhaps starExpressions, build .yield]]
  | starExpressions =>
    [[starExpression, several (choice [[",", starExpression, pick 1]]), perhaps ",", build .tuple],
     [starExpression, ",", build .tuple],
     [starExpression]]
  | starExpression => [["*", bitOr, build .starred], [expression]]
  | starNamedExpressions => [[joined "," starNamedExpression, perhaps ",", pick 0]]
  | starNamedExpression => [["*", bitOr, build .starred], [namedExpression]]
  | assignmentExpression => [[aName, ":=", commit, expression, build .named]]
  | namedExpression => [[assignmentExpression], [mistake wrongNamed], [expression, notAhead ":="]]
  | disjunction =>
    [[conjunction, several (choice [["or", conjunction, pick 1]]), build .either], [conjunction]]
  | conjunction =>
    [[inversion, several (choice [["and", inversion, pick 1]]), build .both], [inversion]]
  | inversion => [["not", inversion, build .negation], [comparison]]
  | comparison => [[bitOr, several comparisonPair, build .comparison], [bitOr]]
  | comparisonPair =>
    [comparing "==", comparing "!=", comparing "<=", comparing "<", comparing ">=", comparing ">",
     comparingBoth "not" "in", comparing "in", comparingBoth "is" "not", comparing "is"]
  | bitOr => [[bitOr, "|", bitXor, build .binary], [bitXor]]
  | bitXor => [[bitXor, "^", bitAnd, build .binary], [bitAnd]]
  | bitAnd => [[bitAnd, "&", shift, build .binary], [shift]]
  | shift =>
    [[shift, "<<", addition, build .binary], [shift, ">>", addition, build .binary], [addition]]
  | addition =>
    [[addition, "+", term, build .binary], [addition, "-", term, build .binary], [term]]
  | term =>
    [[term, "*", factor, build .binary], [term, "/", factor, build .binary],
     [term, "//", factor, build .binary], [term, "%", factor, build .binary],
     [term, "@", factor, build .binary], [factor]]
  | factor =>
    [["+", factor, build .unary], ["-", factor, build .unary], ["~", factor, build .unary], [power]]
  | power => [[awaited, "**", factor, build .binary], [awaited]]
  | awaited => [["await", primary, build .await], [primary]]
  | primary =>
    [[primary, ".", aName, build .member],
     [primary, generator, build .call],
     [primary, "(", perhaps arguments, ")", build .call],
     [primary, "[", slices, "]", build .index],
     [atom]]
  | slices =>
    [[slice, notAhead ","], [joined "," (either slice starredExpression), perhaps ",", build .tuple]]
  | slice =>
    [[perhaps expression, ":", perhaps expression, maybe [[":", perhaps expression, pick 1]],
       build .slice],
     [namedExpression]]
  | atom =>
    [[aName],
     ["True"],
     ["False"],
     ["None"],
     [ahead aText, texts],
     [aNumber, verify checkNumber],
     [ahead "(", oneOf tupleDisplay group generator],
     [ahead "[", either listDisplay listComprehension],
     [ahead "\x7b", choice [[dictDisplay], [setDisplay], [dictComprehension], [setComprehension]]],
     ["..."]]
  | group => [["(", either yieldExpression namedExpression, ")", pick 1], [mistake wrongGroup]]
  | lambdaExpression => [["lambda", perhaps lambdaList, ":", expression, build .function]]
  | texts => [[several aText, readTexts, build .texts]]
  | listDisplay => [["[", perhaps starNamedExpressions, "]", build .list]]
  | tupleDisplay =>
    [["(", maybe [[starNamedExpression, ",", perhaps starNamedExpressions, build .arguments]], ")",
       build .tuple]]
  | setDisplay => [["\x7b", starNamedExpressions, "\x7d", build .set]]
  | dictDisplay =>
    [["\x7b", perhaps starredPairs, "\x7d", build .dict], ["\x7b", wrongPairs, "\x7d"]]
  | starredPairs => [[joined "," starredPair, perhaps ",", pick 0]]
  | starredPair => [["**", bitOr, build .doubleStarred], [pair]]
  | pair => [[expression, ":", expression, build .pair]]
  | clauses => [[several clause]]
  | clause =>
    [["async", "for", targets, "in", commit, disjunction, each (choice [["if", disjunction, pick 1]]),
       build .asyncClause],
     ["for", targets, "in", commit, disjunction, each (choice [["if", disjunction, pick 1]]),
       build .clause],
     [mistake wrongForTarget]]
  | listComprehension =>
    [["[", namedExpression, clauses, "]", build .listComprehension], [mistake wrongComprehension]]
  | setComprehension =>
    [["\x7b", namedExpression, clauses, "\x7d", build .setComprehension], [mistake wrongComprehension]]
  | generator =>
    [["(", choice [[assignmentExpression], [expression, notAhead ":="]], clauses, ")", build .generator],
     [mistake wrongComprehension]]
  | dictComprehension =>
    [["\x7b", pair, clauses, "\x7d", build .dictComprehension], [mistake wrongDictComprehension]]
  | arguments => [[argumentList, perhaps ",", ahead ")", pick 0], [mistake wrongArguments]]
  | argumentList =>
    [[joined "," argument, maybe [[",", keywordArguments, pick 1]], build .arguments],
     [keywordArguments, build .arguments]]
  | keywordArguments =>
    [[joined "," keywordOrStarred, ",", joined "," keywordOrDoubleStarred, build .keywords],
     [joined "," keywordOrStarred],
     [joined "," keywordOrDoubleStarred]]
  | starredExpression => [["*", expression, build .starred]]
  | keywordOrStarred =>
    [[mistake wrongKeyword], [aName, "=", expression, build .keyword], [starredExpression]]
  | keywordOrDoubleStarred =>
    [[mistake wrongKeyword], [aName, "=", expression, build .keyword],
     ["**", expression, build .doubleStarred]]
  | _ => []

/-! ### Targets -/

def targetAlternatives : Rule → List (List Item)
  | targets =>
    [[target, notAhead ","], [target, each (choice [[",", target, pick 1]]), perhaps ",", build .tuple]]
  | targetItems => [[joined "," target, perhaps ",", pick 0]]
  | targetTupleItems =>
    [[target, several (choice [[",", target, pick 1]]), perhaps ",", build .arguments],
     [target, ",", build .arguments]]
  | target => [["*", choice [[notAhead "*", target]], build .starred], [targetPart]]
  | targetPart =>
    [[targetPrimary, ".", aName, notAhead targetAhead, build .member],
     [targetPrimary, "[", slices, "]", notAhead targetAhead, build .index],
     [targetAtom]]
  | targetAtom =>
    [[aName],
     ["(", targetPart, ")", pick 1],
     ["(", perhaps targetTupleItems, ")", build .tuple],
     ["[", perhaps targetItems, "]", build .list]]
  | singleTarget => [[singleMember], [aName], ["(", singleTarget, ")", pick 1]]
  | singleMember =>
    [[targetPrimary, ".", aName, notAhead targetAhead, build .member],
     [targetPrimary, "[", slices, "]", notAhead targetAhead, build .index]]
  | targetPrimary =>
    [[targetPrimary, ".", aName, ahead targetAhead, build .member],
     [targetPrimary, "[", slices, "]", ahead targetAhead, build .index],
     [targetPrimary, generator, ahead targetAhead, build .call],
     [targetPrimary, "(", perhaps arguments, ")", ahead targetAhead, build .call],
     [atom, ahead targetAhead]]
  | targetAhead => [["("], ["["], ["."]]
  | delTargets => [[joined "," delTarget, perhaps ",", pick 0]]
  | delTarget =>
    [[targetPrimary, ".", aName, notAhead targetAhead, build .member],
     [targetPrimary, "[", slices, "]", notAhead targetAhead, build .index],
     [delAtom]]
  | delAtom =>
    [[aName],
     ["(", delTarget, ")", pick 1],
     ["(", perhaps delTargets, ")", build .tuple],
     ["[", perhaps delTargets, "]", build .list]]
  | _ => []

/-! ### Mistakes in expressions -/

/-- The positional arguments among arguments. -/
def positional : Tree → List Tree
  | .node .arguments _ parts =>
    (parts.flatMap fun part =>
      part.items.flatMap fun tree =>
        match tree with
        | .node .keywords _ parts => Tree.itemsIn parts
        | tree => tree.items).filter fun tree =>
      match tree with
      | .node shape _ _ => shape ≠ .keyword && shape ≠ .doubleStarred
      | .token t => !t.isWord ","
      | .run _ => true
  | _ => []

/-- Whether a tree or one of its runs is an unpacked table. -/
def unpacksTable : Tree → Bool
  | .node .arguments _ parts =>
    (parts.flatMap fun part =>
      part.items.flatMap fun tree =>
        match tree with
        | .node .keywords _ parts => Tree.itemsIn parts
        | tree => tree.items).any fun tree =>
      match tree with
      | .node shape _ _ => shape = .doubleStarred
      | _ => false
  | _ => false

/-- A generator among several arguments needs parentheses of its own. -/
def complainBareGenerator : Complaint := fun _ trees =>
  match trees with
  | found :: _ =>
    if (positional found).length ≤ 1 then none
    else
      (positional found).getLast?.map fun tree =>
        ⟨"Generator expression must be parenthesized", tree.line, .grammar⟩
  | [] => none

/-- An argument without a keyword must not follow one with a keyword. -/
def complainOrder : Complaint := fun moment trees =>
  let what := if trees.head?.any unpacksTable then "keyword argument unpacking" else "keyword argument"
  some ⟨s!"positional argument follows {what}", moment.line, .grammar⟩

/-- Whether a tree is the name of a statement that has become a function. -/
def wasStatement (tree : Tree) : Bool := tree.isName "print" || tree.isName "exec"

/-- A statement that has become a function needs parentheses. -/
def complainCall : Complaint := fun _ trees =>
  match trees with
  | .token t :: _ =>
    if wasStatement (.token t) then
      let name := Text.str t.written
      some ⟨s!"Missing parentheses in call to '{name}'. Did you mean {name}(...)?", t.line, .grammar⟩
    else none
  | _ => none

/-- Two expressions in a row inside brackets lack a comma. -/
def complainComma : Complaint := fun moment trees =>
  match trees with
  | first :: _ =>
    if wasStatement first || moment.level = 0 then none
    else some ⟨"invalid syntax. Perhaps you forgot a comma?", first.line, .grammar⟩
  | [] => none

/-- The keyword that something is assigned to. -/
def complainConstant : Complaint := fun _ trees =>
  match trees with
  | .token t :: _ => some ⟨s!"cannot assign to {Text.str t.written}", t.line, .grammar⟩
  | _ => none

def meantComparison : String := "invalid syntax. Maybe you meant '==' or ':=' instead of '='?"

/-- The alternatives of the rules for mistakes in expressions. -/
def wrongExpressionAlternatives : Rule → List (List Item)
  | wrongArguments =>
    [[argumentList, ",", "*",
       complainAt 0 "iterable argument unpacking follows keyword argument unpacking"],
     [expression, clauses, ",", maybe [[argumentList], [expression, clauses]],
       complainAt 0 "Generator expression must be parenthesized"],
     [aName, "=", expression, clauses, complainAt 0 meantComparison],
     [argumentList, clauses, complain complainBareGenerator],
     [argumentList, ",", expression, clauses,
       complainAt 2 "Generator expression must be parenthesized"],
     [argumentList, ",", argumentList, complain complainOrder]]
  | wrongKeyword =>
    [[oneOf "True" "False" "None", "=", complain complainConstant],
     [aName, "=", expression, clauses, complainAt 0 meantComparison],
     [notAhead (choice [[aName, "="]]), expression, "=",
       complainAt 0 "expression cannot contain assignment, perhaps you meant \"==\"?"]]
  | wrongCall => [[aName, notAhead "(", starExpressions, complain complainCall]]
  | wrongExpression =>
    [[notAhead (choice [[aName, aText], [one .softWord]]), disjunction, plainExpression,
       complain complainComma],
     [disjunction, "if", disjunction, notAhead (either "else" ":"),
       complainAt 0 "expected 'else' after 'if' expression"]]
  | wrongNamed =>
    [[expression, ":=", expression, complainCalled 0 "cannot use assignment expressions with " ""],
     [aName, "=", bitOr, notAhead (either "=" ":="), complainAt 0 meantComparison],
     [notAhead
        (choice [[listDisplay], [tupleDisplay], [generator], ["True"], ["None"], ["False"]]),
       bitOr, "=", bitOr, notAhead (either "=" ":="),
       complainCalled 0 "cannot assign to " " here. Maybe you meant '==' instead of '='?"]]
  | wrongComprehension =>
    [[oneOf "[" "(" "\x7b", starredExpression, clauses,
       complainAt 1 "iterable unpacking cannot be used in comprehension"],
     [either "[" "\x7b", starNamedExpression, ",", starNamedExpressions, clauses,
       complainAt 1 "did you forget parentheses around the comprehension target?"],
     [either "[" "\x7b", starNamedExpression, ",", clauses,
       complainAt 1 "did you forget parentheses around the comprehension target?"]]
  | wrongDictComprehension =>
    [["\x7b", "**", bitOr, clauses, "\x7d",
       complainAt 1 "dict unpacking cannot be used in dict comprehension"]]
  | wrongGroup =>
    [["(", starredExpression, ")", complainAt 1 "cannot use starred expression here"],
     ["(", "**", expression, ")", complainAt 1 "cannot use double starred expression here"]]
  | wrongPairs =>
    [[joined "," starredPair, ",", wrongPair],
     [expression, ":", "*", bitOr, complainAt 2 "cannot use a starred expression in a dictionary value"],
     [expression, ":", ahead (either "\x7d" ","),
       complainAt 1 "expression expected after dictionary key and ':'"]]
  | wrongPair =>
    [[expression, notAhead ":", complainAt 0 "':' expected after dictionary key"],
     [expression, ":", "*", bitOr, complainAt 2 "cannot use a starred expression in a dictionary value"],
     [expression, ":", ahead (either "\x7d" ","),
       complainAt 1 "expression expected after dictionary key and ':'"]]
  | _ => []

/-! ### Mistakes in parameters -/

/-- The alternatives of the rules for mistakes in parameters. -/
def wrongParameterAlternatives : Rule → List (List Item)
  | wrongParameters =>
    [[each plainParameter, wrongParametersStart, plainParameter,
       complainAt 2 "non-default argument follows default argument"],
     [each plainParameter, "(", several plainParameter, perhaps ",", ")",
       complainAt 1 "Function parameters cannot be parenthesized"],
     ["/", ",", complainAt 0 "at least one argument must precede /"],
     [either slashPlain slashDefault, each anyParameter, "/", complainAt 2 "/ may appear only once"],
     [perhaps (either slashPlain slashDefault), each anyParameter, "*", either "," plainParameter,
       each anyParameter, "/", complainAt 5 "/ must be ahead of *"],
     [several anyParameter, "/", "*", complainAt 2 "expected comma between / and *"]]
  | wrongParametersStart => [[slashDefault], [several defaultParameter]]
  | wrongDefault => [["=", ahead (either ")" ","), complainAt 0 "expected default value expression"]]
  | wrongStar =>
    [["*", choice [[")"], [",", either ")" "**"]], complainAt 0 "named arguments must follow bare *"],
     ["*", parameter, "=", complainAt 2 "var-positional argument cannot have default value"],
     ["*", either plainParameter ",", each anyParameter, "*", either plainParameter ",",
       complainAt 3 "* argument may appear only once"]]
  | wrongKeywords =>
    [["**", parameter, "=", complainAt 2 "var-keyword argument cannot have default value"],
     ["**", parameter, ",", parameter, complainAt 3 "arguments cannot follow var-keyword argument"],
     ["**", parameter, ",", oneOf "*" "**" "/",
       complainAt 3 "arguments cannot follow var-keyword argument"]]
  | wrongLambda =>
    [[each lambdaPlain, wrongLambdaStart, lambdaPlain,
       complainAt 2 "non-default argument follows default argument"],
     [each lambdaPlain, "(", joined "," lambdaParameter, perhaps ",", ")",
       complainAt 1 "Lambda expression parameters cannot be parenthesized"],
     ["/", ",", complainAt 0 "at least one argument must precede /"],
     [either lambdaSlashPlain lambdaSlashDefault, each lambdaAny, "/",
       complainAt 2 "/ may appear only once"],
     [perhaps (either lambdaSlashPlain lambdaSlashDefault), each lambdaAny, "*", either "," lambdaPlain,
       each lambdaAny, "/", complainAt 5 "/ must be ahead of *"],
     [several lambdaAny, "/", "*", complainAt 2 "expected comma between / and *"]]
  | wrongLambdaStart => [[lambdaSlashDefault], [several lambdaDefault]]
  | wrongLambdaStar =>
    [["*", choice [[":"], [",", either ":" "**"]], complainHere "named arguments must follow bare *"],
     ["*", lambdaParameter, "=", complainAt 2 "var-positional argument cannot have default value"],
     ["*", either lambdaPlain ",", each lambdaAny, "*", either lambdaPlain ",",
       complainAt 3 "* argument may appear only once"]]
  | wrongLambdaKeywords =>
    [["**", lambdaParameter, "=", complainAt 2 "var-keyword argument cannot have default value"],
     ["**", lambdaParameter, ",", lambdaParameter,
       complainAt 3 "arguments cannot follow var-keyword argument"],
     ["**", lambdaParameter, ",", oneOf "*" "**" "/",
       complainAt 3 "arguments cannot follow var-keyword argument"]]
  | _ => []

/-! ### Mistakes in statements -/

def noColon : Item := complainHere "expected ':'"

/-- A header whose block is not indented; its keyword is at a position. -/
def noBlock (header : List Item) (n : Nat) (what : String) : List Item :=
  header ++ [.word ":", newline, notAhead indent, complainBlock n what]

/-- The alternatives of the rules for mistakes in statements. -/
def wrongStatementAlternatives : Rule → List (List Item)
  | wrongAssignment =>
    [[wrongAnnotated, ":", expression, complainCalled 0 "only single target (not " ") can be annotated"],
     [starNamedExpression, ",", each starNamedExpressions, ":", expression,
       complainAt 0 "only single target (not tuple) can be annotated"],
     [expression, ":", expression, complainAt 0 "illegal target for annotation"],
     [each (choice [[targets, "=", pick 0]]), starExpressions, "=", complainTarget 1 .assign],
     [each (choice [[targets, "=", pick 0]]), yieldExpression, "=",
       complainAt 1 "assignment to yield expression not possible"],
     [starExpressions, augment, either yieldExpression starExpressions,
       complainCalled 0 "'" "' is an illegal expression for augmented assignment"]]
  | wrongAnnotated => [[listDisplay], [tupleDisplay], ["(", wrongAnnotated, ")", pick 1]]
  | wrongDel => [["del", starExpressions, complainTarget 1 .delete]]
  | wrongBlock =>
    [[newline, notAhead indent,
       .complain fun moment _ => some ⟨"expected an indented block", moment.line, .indentation⟩]]
  | wrongWithItem =>
    [[expression, "as", expression, ahead (oneOf "," ")" ":"), complainTarget 2 .assign]]
  | wrongForTarget => [[perhaps "async", "for", starExpressions, complainTarget 2 .loop]]
  | wrongImport =>
    [[importNames, ",", newline,
       complainHere "trailing comma not allowed without surrounding parentheses"]]
  | wrongWith =>
    [[perhaps "async", "with", managers expression, newline, noColon],
     [perhaps "async", "with", "(", managers expressions, perhaps ",", ")", newline, noColon]]
  | wrongWithBlock =>
    [noBlock [perhaps "async", "with", managers expression] 1 "'with' statement",
     noBlock [perhaps "async", "with", "(", managers expressions, perhaps ",", ")"] 1 "'with' statement"]
  | wrongTry =>
    [noBlock ["try"] 0 "'try' statement",
     ["try", ":", block, notAhead (either "except" "finally"),
       complainHere "expected 'except' or 'finally' block"],
     ["try", ":", each block,
       choice [[several exceptBlock, exceptStarBlock], [several exceptStarBlock, exceptBlock]],
       each block, complainHere "cannot have both 'except' and 'except*' on the same 'try'"]]
  | wrongExcept =>
    [["except", perhaps "*", expression, ",", expressions, asName, ":",
       complainAt 2 "multiple exception types must be parenthesized"],
     ["except", perhaps "*", expression, asName, newline, noColon],
     ["except", newline, noColon],
     ["except", "*", either newline ":", complainHere "expected one or more exception types"]]
  | wrongFinally => [noBlock ["finally"] 0 "'finally' statement"]
  | wrongExceptBlock =>
    [noBlock ["except", expression, asName] 0 "'except' statement",
     noBlock ["except"] 0 "'except' statement"]
  | wrongExceptStarBlock => [noBlock ["except", "*", expression, asName] 0 "'except*' statement"]
  | wrongMatch =>
    [[soft "match", subject, newline, noColon],
     noBlock [soft "match", subject] 0 "'match' statement"]
  | wrongCase =>
    [[soft "case", patterns, maybe [["if", namedExpression]], newline, noColon],
     noBlock [soft "case", patterns, maybe [["if", namedExpression]]] 0 "'case' statement"]
  | wrongAsPattern =>
    [[orPattern, "as", soft "_", complainAt 2 "cannot use '_' as a target"],
     [orPattern, "as", notAhead aName, expression, complainAt 2 "invalid pattern target"]]
  | wrongClassPattern =>
    [[namePath, "(", wrongClassArguments, complainAt 2 "positional patterns follow keyword patterns"]]
  | wrongClassArguments =>
    [[maybe [[positionalPatterns, ","]], keywordPatterns, ",", positionalPatterns, pick 3]]
  | wrongIf =>
    [["if", namedExpression, newline, noColon], noBlock ["if", namedExpression] 0 "'if' statement"]
  | wrongElif =>
    [["elif", namedExpression, newline, noColon],
     noBlock ["elif", namedExpression] 0 "'elif' statement"]
  | wrongElse => [noBlock ["else"] 0 "'else' statement"]
  | wrongWhile =>
    [["while", namedExpression, newline, noColon],
     noBlock ["while", namedExpression] 0 "'while' statement"]
  | wrongFor =>
    [[perhaps "async", "for", targets, "in", starExpressions, newline, noColon],
     noBlock [perhaps "async", "for", targets, "in", starExpressions] 1 "'for' statement"]
  | wrongFunction =>
    [noBlock [perhaps "async", "def", aName, "(", perhaps parameterList, ")", arrow] 1 "function definition"]
  | wrongClass =>
    [["class", aName, bases, newline, noColon], noBlock ["class", aName, bases] 0 "class definition"]
  | _ => []

def Rule.alternatives (r : Rule) : List (List Item) :=
  statementAlternatives r ++ patternAlternatives r ++ parameterAlternatives r ++ expressionAlternatives r ++
    targetAlternatives r ++ wrongExpressionAlternatives r ++ wrongParameterAlternatives r ++
    wrongStatementAlternatives r

def Rule.startsWithItself : Rule → Bool
  | dottedName | valuePath | bitOr | bitXor | bitAnd | shift | addition | term | primary
  | targetPrimary => true
  | _ => false

/-- Whether what a rule matches at a place is remembered. -/
def Rule.isRemembered : Rule → Bool
  | simpleStatement | block | expression | starExpression | disjunction | conjunction | inversion
  | factor | awaited | texts | arguments | target | targetPart | delTarget | closedPattern | starPattern
  | wrongNamed => true
  | r => r.startsWithItself

end Literate.Script
