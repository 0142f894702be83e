import Literate.Script.Literal
import Literate.Script.View

/-! # What is known of expressions

Some of the value of an expression can be told before it is evaluated: constants, what is calculated from
constants, and the type of a list, a table or a function that is written out. -/

namespace Literate.Script

open Text

/-- What is known of the value of an expression before it is evaluated. -/
inductive Known where
  | none
  | ellipsis
  | bool (b : Bool)
  | int (n : Int)
  | real (isZero : Bool)
  | complex
  | text (t : Text)
  | bytes (t : Text)
  | tuple (items : List Known)
  /-- A tuple whose members are not all known. -/
  | someTuple
  | list
  | dict
  | set
  | function
  | generator
  /-- A text with expressions inside it. -/
  | template
deriving Inhabited

namespace Known

/-- Whether the value itself is known, not only its type. -/
def isConstant : Known → Bool
  | someTuple | list | dict | set | function | generator | template => false
  | _ => true

def typeName : Known → String
  | none => "NoneType"
  | ellipsis => "ellipsis"
  | bool _ => "bool"
  | int _ => "int"
  | real _ => "float"
  | complex => "complex"
  | text _ | template => "str"
  | bytes _ => "bytes"
  | tuple _ | someTuple => "tuple"
  | list => "list"
  | dict => "dict"
  | set => "set"
  | function => "function"
  | generator => "generator"

/-- The integer of a value that counts as one. -/
def int? : Known → Option Int
  | int n => some n
  | bool b => some (if b then 1 else 0)
  | _ => Option.none

/-- Whether a value is a number that is not whole. -/
def isBroken : Known → Bool
  | real _ | complex => true
  | _ => false

def isNumber (k : Known) : Bool := k.int?.isSome || k.isBroken

def isZero : Known → Bool
  | int n => n = 0
  | bool b => !b
  | real z => z
  | _ => false

/-- Whether a constant counts as true. -/
def truth : Known → Bool
  | none => false
  | text t | bytes t => !t.isEmpty
  | tuple items => !items.isEmpty
  | k => !k.isZero

/-! ### Calculating with constants -/

/-- The members of a text, of bytes or of a tuple. -/
def members? : Known → Option (List Known)
  | text t => some (t.map fun c => text [c])
  | bytes t => some (t.map fun c => int c.toNat)
  | tuple items => some items
  | _ => Option.none

/-- A sequence repeated, as long as the result is small. -/
def repeated? (count : Int) (k : Known) : Option Known :=
  let copies (limit size : Nat) : Option Nat :=
    if size = 0 then some 0
    else if count < 0 || limit < count * size then Option.none
    else some count.toNat
  match k with
  | text t => (copies 4096 t.length).map fun n => text (List.replicate n t).flatten
  | bytes t => (copies 4096 t.length).map fun n => bytes (List.replicate n t).flatten
  | tuple items => (copies 256 items.length).map fun n => tuple (List.replicate n items).flatten
  | _ => Option.none

def bitsOf (n : Int) : Nat := if n = 0 then 0 else n.natAbs.log2 + 1

/-- The most bits of a number that is calculated before code runs. -/
def bitLimit : Nat := 128

/-- The bits that two numbers share; a negative number has infinitely many. -/
def sharedBits (m n : Int) : Int :=
  let complement (k : Int) : Nat := (-k - 1).toNat
  if 0 ≤ m then
    if 0 ≤ n then (Nat.land m.toNat n.toNat : Nat) else m - (Nat.land m.toNat (complement n) : Nat)
  else if 0 ≤ n then n - (Nat.land n.toNat (complement m) : Nat)
  else -(Nat.lor (complement m) (complement n) : Nat) - 1

/-- The bits that one of two numbers has at least. -/
def joinedBits (m n : Int) : Int := m + n - sharedBits m n

/-- The result of an operation on whole numbers, if it can be told. -/
def wholeResult? (op : String) (m n : Int) : Option Known :=
  match op with
  | "+" => some (int (m + n))
  | "-" => some (int (m - n))
  | "*" => if m ≠ 0 && n ≠ 0 && bitLimit < bitsOf m + bitsOf n then Option.none else some (int (m * n))
  | "/" => if n = 0 then Option.none else some (real (m = 0))
  | "//" => if n = 0 then Option.none else some (int (Int.fdiv m n))
  | "%" => if n = 0 then Option.none else some (int (Int.fmod m n))
  | "**" =>
    if n < 0 then if m = 0 then Option.none else some (real false)
    else if m ≠ 0 && 0 < n && bitLimit / n.toNat < bitsOf m then Option.none
    else some (int (Int.pow m n.toNat))
  | "<<" =>
    if n < 0 then Option.none
    else if m ≠ 0 && (bitLimit < n.toNat || bitLimit - n.toNat < bitsOf m) then Option.none
    else some (int (if m = 0 then 0 else m * (Nat.pow 2 n.toNat : Nat)))
  | ">>" =>
    if n < 0 then Option.none
    else if 4096 < n then some (int (if m < 0 then -1 else 0))
    else some (int (Int.fdiv m (Nat.pow 2 n.toNat : Nat)))
  | "&" => some (int (sharedBits m n))
  | "|" => some (int (joinedBits m n))
  | "^" => some (int (joinedBits m n - sharedBits m n))
  | _ => Option.none

/-- The result of an operation on numbers that are not all whole, if it can be told. -/
def brokenResult? (op : String) (a b : Known) : Option Known :=
  let result := if a matches .complex || b matches .complex then complex else real false
  match op with
  | "+" | "-" | "*" | "**" => some result
  | "/" => if b.isZero then Option.none else some result
  | "//" | "%" => if b.isZero || result matches .complex then Option.none else some result
  | _ => Option.none

/-- The result of an operation on constants, if it can be told. -/
def calculated? (op : String) (a b : Known) : Option Known :=
  match a.int?, b.int? with
  | some m, some n =>
    let result := wholeResult? op m n
    if ["&", "|", "^"].contains op && a matches .bool _ && b matches .bool _ then
      result.map fun k => bool (!k.isZero)
    else result
  | m?, n? =>
    if a.isNumber && b.isNumber then brokenResult? op a b
    else
      match op, a, b with
      | "+", text s, text t => some (text (s ++ t))
      | "+", bytes s, bytes t => some (bytes (s ++ t))
      | "+", tuple xs, tuple ys => some (tuple (xs ++ ys))
      | "*", a, b => ((m?.bind fun m => repeated? m b)).or (n?.bind fun n => repeated? n a)
      | _, _, _ => Option.none

/-- The result of an operation on one constant, if it can be told. -/
def changed? (op : String) (k : Known) : Option Known :=
  match op, k with
  | "-", k => if k.isBroken then some k else k.int?.map fun n => int (-n)
  | "+", k => if k.isBroken then some k else k.int?.map int
  | "~", k => k.int?.map fun n => int (-n - 1)
  | _, _ => Option.none

def member? (v position : Known) : Option Known := do
  let items ← v.members?
  let n ← position.int?
  let k := if n < 0 then n + items.length else n
  if k < 0 then Option.none else items[k.toNat]?

/-! ### Constants as written -/

def ofNumber (written : Text) : Known :=
  let digits := written.filter (· != '_')
  let value (base : Nat) (ds : Text) : Known :=
    let n : Nat := ds.foldl (fun n d => base * n + (hexValue? d).getD 0) 0
    int n
  match digits with
  | '0' :: mark :: ds =>
    if mark = 'x' || mark = 'X' then value 16 ds
    else if mark = 'o' || mark = 'O' then value 8 ds
    else if mark = 'b' || mark = 'B' then value 2 ds
    else decimal digits
  | digits => decimal digits
where
  decimal (digits : Text) : Known :=
    if digits.all Char.isDigit then int (decimalNumber digits)
    else if digits.getLast?.any (fun c => c = 'j' || c = 'J') then complex
    else
      let mantissa := digits.takeWhile fun c => c != 'e' && c != 'E'
      real (mantissa.all fun c => c = '0' || c = '.')

def ofToken (t : Token) : Option Known :=
  match t.kind with
  | .number => some (ofNumber t.written)
  | _ =>
    if t.isWord "None" then some none
    else if t.isWord "True" then some (bool true)
    else if t.isWord "False" then some (bool false)
    else if t.isWord "..." then some ellipsis
    else Option.none

def ofTexts (written : List Tree) : Option Known :=
  if written.any (Tree.hasMark 'f') then some template
  else
    let values := written.filterMap fun tree =>
      match tree with
      | .token t =>
        if (marks t.written).elem 'b' then some ((inside t.written).map .char)
        else ((textValue t.written).toOption.bind id)
      | _ => Option.none
    some (
      match Point.text? values.flatten with
      | some t => if written.any (Tree.hasMark 'b') then bytes t else text t
      | Option.none => template)

end Known

/-- What is known of the value of an expression. -/
def known? : Nat → Tree → Option Known
  | 0, _ => none
  | fuel + 1, tree =>
    let constant? (tree : Tree) : Option Known := (known? fuel tree).filter Known.isConstant
    match tree.asExpr with
    | .name n => if n = debugName then some (.bool true) else none
    | .constant t => Known.ofToken t
    | .texts written _ => Known.ofTexts written
    | .list _ | .comprehension .list _ _ _ => some .list
    | .dict _ | .comprehension .dict _ _ _ => some .dict
    | .set _ | .comprehension .set _ _ _ => some .set
    | .comprehension .generator _ _ _ => some .generator
    | .function .. => some .function
    | .tuple items => some ((items.mapM constant?).elim .someTuple .tuple)
    | .negation e => (constant? e).map fun k => .bool (!k.truth)
    | .unary op e => do Known.changed? (← op.written?) (← constant? e)
    | .binary a op b => do Known.calculated? (← op.written?) (← constant? a) (← constant? b)
    | .index e position => do Known.member? (← constant? e) (← constant? position)
    | _ => none

def constant? (fuel : Nat) (tree : Tree) : Option Known := (known? fuel tree).filter Known.isConstant

end Literate.Script
