import TypedQuery.Script.Token

/-!
# The grammar of Python text

A grammar has a rule for each kind of part of a text. Rules are read as a recogniser tries them: of
several choices the first that fits is taken, and a repetition takes as much as it can. Operators
have few levels, since their order among each other does not decide whether a text can be read.
-/

namespace TypedQuery.Script

/-- What a single token may be. -/
inductive Terminal where
  | sign (text : String)
  | word (text : String)
  | name
  /-- One name only. -/
  | only (text : String)
  /-- Any name but one. -/
  | but (text : String)
  | number
  | real
  | imaginary
  | text
  | bytes
  | newline
  | indent
  | dedent
  deriving DecidableEq

/-- Whether a token is what a terminal asks for. -/
def Terminal.accepts : Terminal → Token → Bool
  | .sign a, .sign b => a == b
  | .word a, .word b => a == b
  | .name, .name _ => true
  | .only a, .name b => a == b
  | .but a, .name b => a != b
  | .number, .number _ => true
  | .real, .number isImaginary => !isImaginary
  | .imaginary, .number isImaginary => isImaginary
  | .text, .string isBytes _ => !isBytes
  | .bytes, .string isBytes _ => isBytes
  | .newline, .newline => true
  | .indent, .indent => true
  | .dedent, .dedent => true
  | _, _ => false

/-- The kinds of parts of a text. -/
inductive Rule where
  -- statements
  | file | statements | statement | line | simple | compound | block
  | assignment | importing | importFrom | member | module | dotted
  | decorators | functionDef | parameters | classDef
  | conditional | otherwise | whileLoop | forLoop | withBlock | withItem
  | attempt | handler | groupHandler | cleanup
  -- patterns
  | matching | caseBlock | patterns | pattern | alternatives | closedPattern | literal | capture
  | attributes | openSequence | sequence | sequenceItem | mapping | mappingItem | rest
  | classPattern | keywordPattern
  -- expressions
  | values | value | namedValues | namedValue | expression | yielding | naming | named
  | disjunction | inversion | comparison | sum | factor | power | primary | access
  | slices | slice | atom | strings | group | tuple | generator | listDisplay | listLoop
  | dictDisplay | dictLoop | entry | pair | setDisplay | setLoop | clauses | function
  | functionParameters
  | arguments | positional | keywords | keywordOrStar | keywordOrDouble
  -- what can be assigned to or deleted
  | targets | target | plainTarget | targetAtom | singleTarget | place | reach
  | deletions | deletion
  deriving DecidableEq

/-- A way to read tokens. -/
inductive Peg where
  | token (t : Terminal)
  | rule (r : Rule)
  /-- One after the other. -/
  | seq (parts : List Peg)
  /-- The first that fits. -/
  | choice (options : List Peg)
  /-- As often as it fits, maybe never. -/
  | many (p : Peg)
  /-- Only if it fits; no token is taken. -/
  | ahead (p : Peg)
  /-- Only if it does not fit; no token is taken. -/
  | avoid (p : Peg)

namespace Peg

instance : Coe Rule Peg := ⟨.rule⟩

/-- A sign. -/
def sign (text : String) : Peg := token (.sign text)

/-- A keyword. -/
def word (text : String) : Peg := token (.word text)

/-- A name. -/
def name : Peg := token .name

/-- The end of a line. -/
def newline : Peg := token .newline

/-- Once or never. -/
def opt (p : Peg) : Peg := choice [p, seq []]

/-- At least once. -/
def repeated (p : Peg) : Peg := seq [p, many p]

/-- At least once, with a sign between. -/
def separated (separator : String) (p : Peg) : Peg := seq [p, many (seq [sign separator, p])]

/-- At least once, with commas between. -/
def listed (p : Peg) : Peg := separated "," p

/-- At least once, with commas between and maybe one at the end. -/
def listedOpen (p : Peg) : Peg := seq [listed p, opt (sign ",")]

/-- Between parentheses. -/
def enclosed (p : Peg) : Peg := seq [sign "(", p, sign ")"]

/-- Between brackets. -/
def bracketed (p : Peg) : Peg := seq [sign "[", p, sign "]"]

/-- Between braces. -/
def braced (p : Peg) : Peg := seq [sign "\x7b", p, sign "\x7d"]

/-- One of several signs. -/
def anySign (texts : List String) : Peg := choice (texts.map sign)

/-- Signs that change a place. -/
def update : Peg :=
  anySign ["+=", "-=", "*=", "@=", "/=", "%=", "&=", "|=", "^=", "<<=", ">>=", "**=", "//="]

/-- Signs of arithmetic, apart from that of powers. -/
def arithmetic : Peg := anySign ["|", "^", "&", "<<", ">>", "+", "-", "*", "/", "//", "%", "@"]

/-- Comparisons. -/
def comparing : Peg :=
  choice [
    anySign ["==", "!=", "<=", "<", ">=", ">"],
    seq [word "not", word "in"], word "in", seq [word "is", word "not"], word "is"]

/-- The signs by which an access starts. -/
def accessStart : Peg := anySign ["(", "[", "."]

/-- A value that is assigned. -/
def assigned : Peg := choice [Rule.yielding, Rule.values]

/-- A name that is given with `as`. -/
def renamed : Peg := seq [word "as", name]

/-- A colon and a block. -/
def body : Peg := seq [sign ":", Rule.block]

/-- An access that no other one follows. -/
def finalAccess : Peg :=
  seq [Rule.reach, choice [seq [sign ".", name], bracketed Rule.slices], avoid accessStart]

/-- An expression behind a star, as an argument. -/
def starArgument : Peg := seq [sign "*", Rule.expression]

/-- An argument with a name. -/
def namedArgument : Peg := seq [name, sign "=", Rule.expression]

/-- Parameters of a function. `parameter` is one of them, `starred` the one behind a star, and
`close` the sign behind all of them. Those with a value follow those without one, up to a star. -/
def params (parameter starred : Peg) (close : String) : Peg :=
  let done := choice [sign ",", ahead (sign close)]
  let value := seq [sign "=", Rule.expression]
  let plain := seq [parameter, done]
  let valued := seq [parameter, value, done]
  let either := seq [parameter, opt value, done]
  let double := seq [sign "**", parameter, done]
  let star := choice [
    seq [sign "*", starred, done, many either, opt double],
    seq [sign "*", sign ",", repeated either, opt double],
    double]
  let slash := seq [sign "/", done]
  choice [
    seq [repeated plain, slash, many plain, many valued, opt star],
    seq [many plain, repeated valued, slash, many valued, opt star],
    seq [repeated plain, many valued, opt star],
    seq [repeated valued, opt star],
    star]

end Peg

namespace Rule

open Peg

/-- How to read a part of a text. -/
def peg : Rule → Peg
  -- statements
  | .file => opt statements
  | .statements => repeated statement
  | .statement => choice [compound, line]
  | .line => seq [separated ";" simple, opt (sign ";"), newline]
  | .simple => choice [
      assignment, values, seq [word "return", opt values], importing,
      seq [word "raise", opt (seq [expression, opt (seq [word "from", expression])])],
      word "pass", seq [word "del", deletions, ahead (choice [sign ";", newline])], yielding,
      seq [word "assert", expression, opt (seq [sign ",", expression])],
      word "break", word "continue",
      seq [word "global", listed name], seq [word "nonlocal", listed name]]
  | .compound => choice [
      functionDef, conditional, classDef, withBlock, forLoop, attempt, whileLoop, matching]
  | .block => choice [seq [newline, token .indent, statements, token .dedent], line]
  | .assignment => choice [
      seq [name, sign ":", expression, opt (seq [sign "=", assigned])],
      seq [choice [enclosed singleTarget, place], sign ":", expression,
        opt (seq [sign "=", assigned])],
      seq [repeated (seq [targets, sign "="]), assigned, avoid (sign "=")],
      seq [singleTarget, update, assigned]]
  | .importing => choice [seq [word "import", listed module], importFrom]
  | .importFrom => seq [
      word "from",
      choice [
        seq [many (anySign [".", "..."]), dotted],
        repeated (anySign [".", "..."])],
      word "import",
      choice [enclosed (listedOpen member), seq [listed member, avoid (sign ",")], sign "*"]]
  | .member => seq [name, opt renamed]
  | .module => seq [dotted, opt renamed]
  | .dotted => separated "." name
  | .decorators => many (seq [sign "@", named, newline])
  | .functionDef => seq [
      decorators, opt (word "async"), word "def", name, enclosed (opt parameters),
      opt (seq [sign "->", expression]), body]
  | .parameters => params
      (seq [name, opt (seq [sign ":", expression])]) (seq [name, opt (seq [sign ":", value])]) ")"
  | .classDef => seq [decorators, word "class", name, opt (enclosed (opt arguments)), body]
  | .conditional => seq [
      word "if", named, body, many (seq [word "elif", named, body]), opt otherwise]
  | .otherwise => seq [word "else", body]
  | .whileLoop => seq [word "while", named, body, opt otherwise]
  | .forLoop => seq [
      opt (word "async"), word "for", targets, word "in", values, body, opt otherwise]
  | .withBlock => seq [
      opt (word "async"), word "with",
      choice [seq [enclosed (listedOpen withItem), body], seq [listed withItem, body]]]
  | .withItem => choice [
      seq [expression, word "as", target, ahead (anySign [",", ")", ":"])], expression]
  | .attempt => seq [
      word "try", body,
      choice [
        cleanup,
        seq [choice [repeated handler, repeated groupHandler], opt otherwise, opt cleanup]]]
  | .handler => seq [word "except", opt (seq [expression, opt renamed]), body]
  | .groupHandler => seq [word "except", sign "*", expression, opt renamed, body]
  | .cleanup => seq [word "finally", body]
  -- patterns
  | .matching => seq [
      token (.only "match"),
      choice [seq [namedValue, sign ",", opt namedValues], named],
      sign ":", newline, token .indent, repeated caseBlock, token .dedent]
  | .caseBlock => seq [token (.only "case"), patterns, opt (seq [word "if", named]), body]
  | .patterns => choice [openSequence, pattern]
  | .pattern => choice [seq [alternatives, word "as", capture], alternatives]
  | .alternatives => separated "|" closedPattern
  | .closedPattern => choice [
      literal, capture, token (.only "_"), seq [attributes, avoid (anySign [".", "(", "="])],
      enclosed pattern, bracketed (opt sequence), enclosed (opt openSequence), mapping,
      classPattern]
  | .literal => choice [
      seq [opt (sign "-"), token .number, avoid (anySign ["+", "-"])],
      seq [opt (sign "-"), token .real, anySign ["+", "-"], token .imaginary],
      strings, word "None", word "True", word "False"]
  | .capture => seq [token (.but "_"), avoid (anySign [".", "(", "="])]
  | .attributes => seq [name, repeated (seq [sign ".", name])]
  | .openSequence => seq [sequenceItem, sign ",", opt sequence]
  | .sequence => listedOpen sequenceItem
  | .sequenceItem => choice [seq [sign "*", choice [capture, token (.only "_")]], pattern]
  | .mapping => choice [
      braced (seq []),
      braced (seq [rest, opt (sign ",")]),
      braced (seq [listed mappingItem, sign ",", rest, opt (sign ",")]),
      braced (listedOpen mappingItem)]
  | .mappingItem => seq [choice [literal, attributes], sign ":", pattern]
  | .rest => seq [sign "**", capture]
  | .classPattern => seq [
      dotted,
      choice [
        enclosed (seq []),
        enclosed (listedOpen pattern),
        enclosed (listedOpen keywordPattern),
        enclosed (seq [listed pattern, sign ",", listedOpen keywordPattern])]]
  | .keywordPattern => seq [name, sign "=", pattern]
  -- expressions
  | .values => listedOpen value
  | .value => choice [seq [sign "*", sum], expression]
  | .namedValues => listedOpen namedValue
  | .namedValue => choice [seq [sign "*", sum], named]
  | .expression => choice [
      seq [disjunction, word "if", disjunction, word "else", expression], disjunction, function]
  | .yielding => choice [
      seq [word "yield", word "from", expression], seq [word "yield", opt values]]
  | .naming => seq [name, sign ":=", expression]
  | .named => choice [naming, seq [expression, avoid (sign ":=")]]
  | .disjunction => seq [inversion, many (seq [choice [word "and", word "or"], inversion])]
  | .inversion => choice [seq [word "not", inversion], comparison]
  | .comparison => seq [sum, many (seq [comparing, sum])]
  | .sum => seq [factor, many (seq [arithmetic, factor])]
  | .factor => choice [seq [anySign ["+", "-", "~"], factor], power]
  | .power => seq [opt (word "await"), primary, opt (seq [sign "**", factor])]
  | .primary => seq [atom, many access]
  | .access => choice [
      seq [sign ".", name], generator, enclosed (opt arguments), bracketed slices]
  | .slices => choice [
      seq [slice, avoid (sign ",")], listedOpen (choice [slice, starArgument])]
  | .slice => choice [
      seq [opt expression, sign ":", opt expression, opt (seq [sign ":", opt expression])], named]
  | .atom => choice [
      name, word "True", word "False", word "None", strings, token .number,
      tuple, group, generator, listDisplay, listLoop, dictDisplay, setDisplay, dictLoop, setLoop,
      sign "..."]
  | .strings => choice [
      seq [repeated (token .text), avoid (token .bytes)],
      seq [repeated (token .bytes), avoid (token .text)]]
  | .group => enclosed (choice [yielding, named])
  | .tuple => enclosed (opt (seq [namedValue, sign ",", opt namedValues]))
  | .generator => enclosed (seq [named, clauses])
  | .listDisplay => bracketed (opt namedValues)
  | .listLoop => bracketed (seq [named, clauses])
  | .dictDisplay => braced (opt (listedOpen entry))
  | .dictLoop => braced (seq [pair, clauses])
  | .entry => choice [seq [sign "**", sum], pair]
  | .pair => seq [expression, sign ":", expression]
  | .setDisplay => braced namedValues
  | .setLoop => braced (seq [named, clauses])
  | .clauses => repeated (seq [
      opt (word "async"), word "for", targets, word "in", disjunction,
      many (seq [word "if", disjunction])])
  | .function => seq [word "lambda", opt functionParameters, sign ":", expression]
  | .functionParameters => params name name ":"
  | .arguments => seq [
      choice [seq [listed positional, opt (seq [sign ",", keywords])], keywords],
      opt (sign ","), ahead (sign ")")]
  | .positional => choice [starArgument, seq [named, avoid (sign "=")]]
  | .keywords => choice [
      seq [listed keywordOrStar, sign ",", listed keywordOrDouble],
      listed keywordOrStar, listed keywordOrDouble]
  | .keywordOrStar => choice [namedArgument, starArgument]
  | .keywordOrDouble => choice [namedArgument, seq [sign "**", expression]]
  -- what can be assigned to or deleted
  | .targets => listedOpen target
  | .target => choice [seq [sign "*", avoid (sign "*"), target], plainTarget]
  | .plainTarget => choice [finalAccess, targetAtom]
  | .targetAtom => choice [
      name, enclosed plainTarget,
      enclosed (opt (seq [target, sign ",", opt (listedOpen target)])),
      bracketed (opt (listedOpen target))]
  | .singleTarget => choice [place, name, enclosed singleTarget]
  | .place => finalAccess
  | .reach => seq [atom, ahead accessStart, many (seq [access, ahead accessStart])]
  | .deletions => listedOpen deletion
  | .deletion => choice [
      finalAccess, name, enclosed deletion, enclosed (opt deletions), bracketed (opt deletions)]

end Rule

end TypedQuery.Script
