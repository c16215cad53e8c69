import PromptScript.Shell.Record.Session

/-!
# Running record programs

The rules of a program are tried on every record.  Expressions are evaluated from left to right; an
assignment finds its target before it evaluates the value.
-/

namespace PromptScript.Shell.Record

open Pattern (Regular)

namespace Running

/-- Where a target was found. -/
inductive Address where
  | scalar (place : Place)
  | field (index : Nat)
  | element (list : Nat) (key : Key)

/-- Counts a step. -/
def tick : Running Unit := do
  let session ← get
  match session.steps with
  | 0 => act (Action.hang .endless)
  | steps + 1 => set { session with steps }

/-- Two texts as one. -/
def joined (a b : Octets) : Running Octets := do
  act (do
    Action.bounded (a.length + b.length)
    Action.exert a.length)
  return a ++ b

/-- The value at a place. -/
def valueAt (place : Place) : Running Value := do
  match place with
  | .shared slot => shared slot
  | .own slot =>
    match (← get).own[slot]? with
    | some (.value value) => return value
    | _ => return .unset

/-- The number of the list at a place, which becomes one if it is nothing yet. -/
def listAt (place : Place) : Running Nat := do
  match place with
  | .shared slot => return slot
  | .own slot =>
    let session ← get
    match session.own[slot]? with
    | some (.list index) => return index
    | _ =>
      let index := session.lists.size
      set { session with
        lists := session.lists.push {}
        own := session.own.set! slot (.list index) }
      return index

/-- A list. -/
def collection (index : Nat) : Running Collection := do
  return ((← get).lists[index]?).getD {}

/-- The number of keys that no run gives a list in its time. -/
def sizeLimit : Nat :=
  0x40000

/-- Changes a list. -/
def changeList (index : Nat) (change : Collection → Collection) : Running Unit := do
  modify fun session => { session with lists := session.lists.modify index change }
  if (← get).lists[index]?.any fun collection => sizeLimit < collection.size then
    act (Action.hang .endless)

/-- Whether a place that is passed on is a list. -/
def isList (setting : Setting) (place : Place) : Running Bool := do
  match place with
  | .shared slot => return (setting.lists[slot]?).getD false
  | .own slot => return (← get).own[slot]? matches some (.list _)

/-- The key that a value is. -/
def keyOf (value : Value) : Running Key := do
  match value with
  | .number number =>
    match integer? number with
    | some integer =>
      if Integer.least ≤ integer && integer ≤ Integer.greatest then return .integer integer
      else return .name (← textOf value)
    | none => return .name (← textOf value)
  | _ => return .name (← textOf value)

/-- Reads what stands at an address. -/
def readAt (address : Address) : Running Value := do
  match address with
  | .scalar place => valueAt place
  | .field 0 => return (← get).record
  | .field (index + 1) => return ((← get).fields[index]?).getD (.input [])
  | .element list key => return ((← collection list).get? key.text).getD .unset

/-- Assigns to an address. -/
def writeAt (address : Address) (value : Value) : Running Unit := do
  match address with
  | .scalar (.shared slot) => assignShared slot value
  | .scalar (.own slot) =>
    modify fun session => { session with own := session.own.set! slot (.value value) }
  | .field index => assignField index value
  | .element list key => changeList list fun collection => collection.insert key value

/-- Calculates with two numbers. -/
def calculate (calculation : Calculation) (a b : Float) : Float :=
  match calculation with
  | .add => a + b
  | .subtract => a - b
  | .multiply => a * b
  | .divide => a / b
  | .remainder => remainderOf a b
  | .power => Float.pow a b
where
  /-- The remainder of a division whose quotient is cut off; it is exact. -/
  remainderOf (a b : Float) : Float :=
    if a.isNaN || b.isNaN || a.isInf || b == 0.0 then Real.notNumber
    else if b.isInf then a
    else
      let (n, d) := (Decimal.magnitude a).fraction
      let (m, e) := (Decimal.magnitude b).fraction
      let rest := (n * e) % (m * d)
      let size := Float.ofNat rest / Float.ofNat (d * e)
      if Decimal.isNegative a then -size else size

/-! ## Texts -/

/-- The part of a text from a place on, with a length.  What lies before the text lengthens the
part. -/
def partOf (text : Octets) (start : Float) (length? : Option Float) : Octets :=
  let first := truncated start
  let size : Option Int := length?.map fun length => if length.isNaN then 0 else truncated length
  let skipped := (max 1 first - 1).toNat
  let count : Nat := match size with
    | none => text.length
    | some size => (if first < 1 then size - first else size).toNat
  (text.drop skipped).take count

/-- The place of a text within another one; zero where it does not occur. -/
def placeIn (text wanted : Octets) : Nat :=
  let rec search : Octets → Nat → Nat
    | [], place => if wanted.isEmpty then place else 0
    | c :: rest, place =>
      if wanted.isPrefixOf (c :: rest) then place else search rest (place + 1)
  if text.isEmpty then 0 else search text 1

/-- What stands for a match: an ampersand is the match, unless a backslash stands before it.  Before
an ampersand, two backslashes are one. -/
def replacement (found : Octets) : Octets → Octets
  | [] => []
  | c :: rest =>
    let plain := c :: replacement found rest
    if c == '&' then found ++ replacement found rest
    else if c == '\\' then
      match rest with
      | '&' :: after => '&' :: replacement found after
      | '\\' :: after =>
        if (after.dropWhile (· == '\\')).head? == some '&' then '\\' :: replacement found after
        else plain
      | _ => plain
    else plain

/-- Replaces matches from a place on; the second result is their number. -/
def replaceFrom (expression : Regular) (isGlobal : Bool) (template : Octets)
    (text : Array Char) : Nat → (place : Nat) → (before? : Option Nat) → Octets × Nat
  | 0, place, _ => ((text.extract place text.size).toList, 0)
  | fuel + 1, place, before? =>
    match Regular.search? expression { text } place with
    | none => ((text.extract place text.size).toList, 0)
    | some (start, reached) =>
      let lead := (text.extract place start).toList
      let isEmpty := start = reached.place
      let isSkipped := isEmpty && before? == some start
      let shown := if isSkipped then []
        else replacement (text.extract start reached.place).toList template
      let count := if isSkipped then 0 else 1
      if !isGlobal && !isSkipped then
        (lead ++ shown ++ (text.extract reached.place text.size).toList, 1)
      else if isEmpty && text.size ≤ start then (lead ++ shown, count)
      else
        let kept := if isEmpty then (text.extract start (start + 1)).toList else []
        let next := if isEmpty then start + 1 else reached.place
        let (later, others) := replaceFrom expression isGlobal template text fuel next
          (some reached.place)
        (lead ++ shown ++ kept ++ later, count + others)

/-- The integer that a directive shows. -/
def shownInteger (value : Float) : Int :=
  let integer := truncated value
  if integer < Integer.least then Integer.least + 1 else min integer 0xffffffffffffffff

/-- Writes values by a format.  `name` is that of the function; what was written before a mistake
is given to `keep`. -/
def formatted (name : String) (keep : Octets → Running Unit) (format : Octets) :
    Nat → (made : Octets) → Octets → (number : Nat) → List Value → Running Octets
  | 0, made, _, _, _ => return made
  | fuel + 1, made, text, number, values => do
    let plain := text.takeWhile (· != '%')
    let made := made ++ plain
    match text.drop plain.length with
    | [] => return made
    | _ :: '%' :: rest => formatted name keep format fuel (made ++ ['%']) rest number values
    | _ :: rest =>
      let refuse {α : Type} (message : String) : Running α := do
        keep made
        fail (octets (message ++ name ++ "(\"") ++ format ++ octets "\")")
      let take (isWanted : Bool) (values : List Value) : Running (Int × List Value) := do
        if !isWanted then return (0, values)
        match values with
        | value :: values => return (truncated value.toNumber, values)
        | [] => refuse "not enough arguments passed to "
      let (directive, rest) := readDirective rest
      let (width, values) ← take directive.width.isNone values
      let (precision, values) ← take (directive.precision == some none) values
      match values, rest.dropWhile fun c => c == 'h' || c == 'l' with
      | [], _ => refuse "not enough arguments passed to "
      | _, [] => refuse s!"improper conversion(number {number}) in "
      | value :: values, letter :: rest =>
        let isKnown := letter ∈
          ['s', 'c', 'd', 'i', 'o', 'x', 'X', 'u', 'f', 'F', 'e', 'E', 'g', 'G', 'a', 'A']
        if !isKnown then refuse s!"improper conversion(number {number}) in "
        let complete := directive.complete width precision letter
        act (Action.bounded (max complete.width (complete.precision.getD 0)))
        let shown ← match letter with
          | 's' => pure (complete.text (← textOf value))
          | 'c' =>
            let char : Octets := match value.number?, value with
              | some code, .number _ | some code, .input _ =>
                [Char.ofNat ((shownInteger code) % 256).toNat]
              | _, _ => [(value.toText []).headD '\x00']
            pure (complete.text char)
          | 'd' | 'i' => pure (complete.signed (shownInteger value.toNumber))
          | 'o' | 'x' | 'X' | 'u' =>
            pure (complete.unsigned ((shownInteger value.toNumber) % 0x10000000000000000).toNat)
          | _ =>
            let real := value.toNumber
            pure (if real.isNaN then
              complete.text (octets (if letter.isUpper then "-NAN" else "-nan"))
            else complete.real real)
        formatted name keep format fuel (made ++ shown) rest (number + 1) values

/-- Writes the first of some values, a format, with the others. -/
def formattedAll (name : String) (keep : Octets → Running Unit) (values : List Value) :
    Running Octets := do
  match values with
  | format :: values =>
    let format ← textOf format
    formatted name keep format (format.length + 1) [] format 1 values
  | [] => return []

/-! ## Expressions and statements -/

/-- Performs the body of a loop; whether the loop is left. -/
def finishes (round : Running Unit) : Running Bool :=
  tryCatch (do
    round
    return false) fun
    | .break => return true
    | .continue => return false
    | jump => throw jump

mutual

/-- Evaluates an expression. -/
def evaluate (setting : Setting) : Nat → Expr → Running Value
  | 0, _ => act (Action.hang .endless)
  | fuel + 1, expr => do
    let number (body : Expr) : Running Float := do
      return (← evaluate setting fuel body).toNumber
    match expr with
    | .number value => return .number value
    | .text content => return .text content
    | .pattern expression =>
      let text ← textOf (← get).record
      return .ofBool (expression.occursIn text)
    | .target target => readAt (← resolve setting fuel target)
    | .assign target change? body =>
      let address ← resolve setting fuel target
      let value ← evaluate setting fuel body
      let result ← match change? with
        | none => pure value
        | some calculation =>
          let before ← readAt address
          pure (Value.number (calculate calculation before.toNumber value.toNumber))
      writeAt address result
      return result
    | .step target isUp isBefore =>
      let address ← resolve setting fuel target
      let before := (← readAt address).toNumber
      let after := if isUp then before + 1.0 else before - 1.0
      writeAt address (.number after)
      return .number (if isBefore then after else before)
    | .calculate calculation left right =>
      let a ← number left
      let b ← number right
      return .number (calculate calculation a b)
    | .positive body => return .number (← number body)
    | .negative body => return .number (-(← number body))
    | .not body =>
      let value ← evaluate setting fuel body
      return .ofBool (!value.isTrue)
    | .join left right =>
      let a ← textOf (← evaluate setting fuel left)
      let b ← textOf (← evaluate setting fuel right)
      return .text (← joined a b)
    | .relate relation left right =>
      let a ← evaluate setting fuel left
      let b ← evaluate setting fuel right
      return .ofBool (relation.holds (compareValues (← numberFormat) a b))
    | .matching isNegated subject pattern =>
      let text ← textOf (← evaluate setting fuel subject)
      let expression ← patternOf setting fuel pattern
      return .ofBool (expression.occursIn text != isNegated)
    | .both left right =>
      if !(← evaluate setting fuel left).isTrue then return .ofBool false
      return .ofBool (← evaluate setting fuel right).isTrue
    | .either left right =>
      if (← evaluate setting fuel left).isTrue then return .ofBool true
      return .ofBool (← evaluate setting fuel right).isTrue
    | .choose condition yes no =>
      if (← evaluate setting fuel condition).isTrue then evaluate setting fuel yes
      else evaluate setting fuel no
    | .contains keys list =>
      let key ← keyFrom setting fuel keys
      let list ← listAt list
      changeList list fun collection => collection.want false key
      return .ofBool ((← collection list).get? key.text).isSome
    | .call function arguments => call setting fuel function arguments
    | .builtin builtin arguments => apply setting fuel builtin arguments
    | .fetch origin target? => fetch setting fuel origin target?

/-- Finds the place of a target; an element is added where it is missing. -/
def resolve (setting : Setting) : Nat → Target → Running Address
  | 0, _ => act (Action.hang .endless)
  | fuel + 1, target => do
    match target with
    | .scalar place => return .scalar place
    | .field index => return .field (← fieldIndex (← evaluate setting fuel index))
    | .element list keys =>
      let key ← keyFrom setting fuel keys
      let list ← listAt list
      changeList list fun collection => collection.want true key
      return .element list key

/-- The key that expressions make. -/
def keyFrom (setting : Setting) : Nat → List Expr → Running Key
  | 0, _ => act (Action.hang .endless)
  | fuel + 1, keys => do
    match keys with
    | [key] => keyOf (← evaluate setting fuel key)
    | _ =>
      let values ← evaluateAll setting fuel keys
      let texts ← values.mapM textOf
      return .name ((← sharedText Place.keySeparator).intercalate texts)

/-- Evaluates expressions in order. -/
def evaluateAll (setting : Setting) : Nat → List Expr → Running (List Value)
  | 0, _ => act (Action.hang .endless)
  | _, [] => return []
  | fuel + 1, first :: rest => do
    let value ← evaluate setting fuel first
    return value :: (← evaluateAll setting fuel rest)

/-- The pattern that an expression is or writes. -/
def patternOf (setting : Setting) : Nat → Expr → Running Regular
  | 0, _ => act (Action.hang .endless)
  | fuel + 1, expr => do
    match expr with
    | .pattern expression => return expression
    | _ => expressionOf (← textOf (← evaluate setting fuel expr))

/-- Evaluates the arguments of a call, for parameters that are lists or not. -/
def passAll (setting : Setting) : Nat → List Bool → List Expr → Running (List Own)
  | 0, _, _ => act (Action.hang .endless)
  | _, _, [] => return []
  | fuel + 1, parameters, first :: rest => do
    let wantsList := parameters.headD false
    let passed ← match first with
      | .target (.scalar place) =>
        if wantsList || (← isList setting place) then pure (Own.list (← listAt place))
        else pure (Own.value (← valueAt place))
      | _ => pure (Own.value (← evaluate setting fuel first))
    return passed :: (← passAll setting fuel (parameters.drop 1) rest)

/-- Calls a function of the program. -/
def call (setting : Setting) : Nat → Nat → List Expr → Running Value
  | 0, _, _ => act (Action.hang .endless)
  | fuel + 1, index, arguments => do
    tick
    match setting.program.functions[index]? with
    | none => return .unset
    | some function =>
      let passed ← passAll setting fuel function.parameters arguments
      let outer ← get
      let held := outer.held + function.parameters.length
      if heldLimit < held then abort (octets "program limit exceeded: eval stack size=1024")
      let mut own := passed.toArray
      let mut lists := outer.lists
      for isList in function.parameters.drop passed.length do
        if isList then
          own := own.push (.list lists.size)
          lists := lists.push {}
        else own := own.push (.value .unset)
      set { outer with own, lists, held }
      let result ← tryCatch (do
        match function.body? with
        | some body => perform setting fuel body
        | none => pure ()
        return Value.unset) fun
        | .return value => return value
        | jump => throw jump
      modify fun session =>
        { session with
          own := outer.own
          lists := session.lists.take outer.lists.size
          held := outer.held }
      return result

/-- Reads a record. -/
def fetch (setting : Setting) : Nat → Origin → Option Target → Running Value
  | 0, _, _ => act (Action.hang .endless)
  | fuel + 1, origin, target? => do
    tick
    let found ← match origin with
      | .main => do
        let record? ← nextMain setting 1000000
        pure (some record?)
      | .file name => do
        let name ← textOf (← evaluate setting fuel name)
        nextIncoming setting false name
      | .command command => do
        let name ← textOf (← evaluate setting fuel command)
        nextIncoming setting true name
    match found with
    | none => return .number (-1.0)
    | some none => return .number 0.0
    | some (some record) =>
      match target? with
      | none => setRecord (.input record)
      | some target => writeAt (← resolve setting fuel target) (.input record)
      return .number 1.0

/-- Calls a function of the language. -/
def apply (setting : Setting) : Nat → Builtin → List Expr → Running Value
  | 0, _, _ => act (Action.hang .endless)
  | fuel + 1, builtin, arguments => do
    let value (place : Nat) : Running Value :=
      match arguments[place]? with
      | some argument => evaluate setting fuel argument
      | none => return .unset
    let number (place : Nat) : Running Float := return (← value place).toNumber
    let text (place : Nat) : Running Octets := do textOf (← value place)
    let through (change : Float → Float) : Running Value := do
      return .number (change (← number 0))
    match builtin with
    | .arctangent =>
      let y ← number 0
      return .number (Float.atan2 y (← number 1))
    | .cosine => through Float.cos
    | .exponential => through Float.exp
    | .logarithm => through Float.log
    | .sine => through Float.sin
    | .root => through Float.sqrt
    | .integer => through fun value => if value < 0.0 then value.ceil else value.floor
    | .random =>
      let seed := ((← get).seed * 1103515245 + 12345) % 2147483648
      modify fun session => { session with seed }
      return .number (seed.toFloat / 2147483648.0)
    | .seed =>
      let before := (← get).seed
      let seed ← if arguments.isEmpty then pure 0 else do
        pure (truncated (← number 0)).toNat
      modify fun session => { session with seed }
      return .ofNat before
    | .time => return .ofNat 0
    | .lower =>
      let content ← text 0
      return .text (content.map Char.toLower)
    | .upper =>
      let content ← text 0
      return .text (content.map Char.toUpper)
    | .length =>
      match (arguments[0]? : Option Expr) with
      | none => return .ofNat (← textOf (← get).record).length
      | some (.target (.scalar place)) =>
        if ← isList setting place then return .ofNat (← collection (← listAt place)).size
        else return .ofNat (← textOf (← valueAt place)).length
      | some _ =>
        let content ← text 0
        return .ofNat content.length
    | .index =>
      let content ← text 0
      return .ofNat (placeIn content (← text 1))
    | .part =>
      let content ← text 0
      let start ← number 1
      let length? ← if arguments.length < 3 then pure none else some <$> number 2
      return .text (partOf content start length?)
    | .matchPlace =>
      let content ← text 0
      let expression ← patternOf setting fuel (arguments.getD 1 (.text []))
      let (start, length) : Nat × Float :=
        match Regular.search? expression { text := content.toArray } 0 with
        | some (start, reached) => (start + 1, (reached.place - start).toFloat)
        | none => (0, -1.0)
      setShared Place.matchStart (.ofNat start)
      setShared Place.matchLength (.number length)
      return .ofNat start
    | .split =>
      let content ← text 0
      match (arguments[1]? : Option Expr) with
      | some (.target (.scalar place)) =>
        let parts ← match (arguments[2]? : Option Expr) with
          | none => fieldsOf (← sharedText Place.fieldSeparator) content
          | some (.pattern expression) =>
            pure (((Separator.pattern expression).split content).map Value.input).toArray
          | some _ => fieldsOf (← text 2) content
        let list ← listAt place
        changeList list fun _ => .ofList parts.toList
        return .ofNat parts.size
      | _ => return .ofNat 0
    | .substitute isGlobal =>
      let expression ← patternOf setting fuel (arguments.getD 0 (.text []))
      let template ← text 1
      let address? : Option Address ← match (arguments[2]? : Option Expr) with
        | none => pure (some (.field 0))
        | some (.target target) => some <$> resolve setting fuel target
        | some _ => pure none
      let before ← match address? with
        | some address => readAt address
        | none => value 2
      let content := (← textOf before).toArray
      let (replaced, count) :=
        replaceFrom expression isGlobal template content (content.size + 2) 0 none
      if count ≠ 0 then
        if let some address := address? then writeAt address (.text replaced)
      return .ofNat count
    | .format =>
      let values ← evaluateAll setting fuel arguments
      return .text (← formattedAll "sprintf" (fun _ => pure ()) values)
    | .run =>
      let command ← text 0
      flushAll
      let result ← act (setting.start (commandWords command))
      return .ofNat (statusOf result)
    | .close =>
      let status ← close setting (← text 0)
      return .number (Float.ofInt status)
    | .flush =>
      flushAll
      return .ofNat 0

/-- Performs a statement. -/
def perform (setting : Setting) : Nat → Statement → Running Unit
  | 0, _ => act (Action.hang .endless)
  | fuel + 1, statement => do
    match statement with
    | .expression body =>
      let _ ← evaluate setting fuel body
    | .print arguments output? =>
      let values ← evaluateAll setting fuel arguments
      let output? ← outputOf setting fuel output?
      let format := (← shared Place.outputFormat).toText (octets "%.6g")
      let separator ← sharedText Place.outputSeparator
      let ending ← sharedText Place.outputEnd
      let body ← if arguments.isEmpty then textOf (← get).record
        else pure (separator.intercalate (values.map (·.toText format)))
      emit (body ++ ending) output?
    | .format arguments output? =>
      let values ← evaluateAll setting fuel arguments
      let output? ← outputOf setting fuel output?
      emit (← formattedAll "printf" (fun text => emit text output?) values) output?
    | .conditional condition yes no? =>
      if (← evaluate setting fuel condition).isTrue then perform setting fuel yes
      else
        match no? with
        | some no => perform setting fuel no
        | none => return
    | .loop testsFirst condition? afterwards? body =>
      rounds setting fuel testsFirst condition? afterwards? body
    | .visit place list body =>
      let index ← listAt list
      changeList index fun collection => if collection.size = 0 then collection
        else collection.named
      visit setting fuel place body (← collection index).keys
    | .block statements => performAll setting fuel statements
    | .next => throw .next
    | .nextFile => throw .nextFile
    | .exit status? =>
      if let some status := status? then
        let status := (truncated (← evaluate setting fuel status).toNumber % 256).toNat
        modify fun session => { session with status }
      throw .exit
    | .return value? =>
      match value? with
      | some value => throw (.return (← evaluate setting fuel value))
      | none => throw (.return .unset)
    | .break => throw .break
    | .continue => throw .continue
    | .delete list keys =>
      let key ← keyFrom setting fuel keys
      let list ← listAt list
      changeList list fun collection => collection.erase key
    | .clear list =>
      let list ← listAt list
      changeList list fun _ => {}

/-- Where a statement prints to. -/
def outputOf (setting : Setting) : Nat → Option (Way × Expr) → Running (Option (Way × Octets))
  | 0, _ => act (Action.hang .endless)
  | _, none => return none
  | fuel + 1, some (way, name) => do
    return some (way, ← textOf (← evaluate setting fuel name))

/-- Performs statements in order. -/
def performAll (setting : Setting) : Nat → List Statement → Running Unit
  | 0, _ => act (Action.hang .endless)
  | _, [] => return
  | fuel + 1, first :: rest => do
    perform setting fuel first
    performAll setting fuel rest

/-- Performs the rounds of a loop. -/
def rounds (setting : Setting) : Nat → (tests : Bool) → Option Expr → Option Expr → Statement →
    Running Unit
  | 0, _, _, _, _ => act (Action.hang .endless)
  | fuel + 1, tests, condition?, afterwards?, body => do
    tick
    if tests then
      if let some condition := condition? then
        if !(← evaluate setting fuel condition).isTrue then return
    if ← finishes (perform setting fuel body) then return
    if let some step := afterwards? then
      let _ ← evaluate setting fuel step
    rounds setting fuel true condition? afterwards? body

/-- Performs a statement for some keys. -/
def visit (setting : Setting) : Nat → Place → Statement → List Octets → Running Unit
  | 0, _, _, _ => act (Action.hang .endless)
  | _, _, _, [] => return
  | fuel + 1, place, body, key :: rest => do
    writeAt (.scalar place) (.text key)
    if ← finishes (perform setting fuel body) then return
    visit setting fuel place body rest

end

/-- Whether a rule is for the present record; `place` is its number. -/
def isFor (setting : Setting) (fuel place : Nat) (rule : Rule) : Running Bool := do
  match rule.condition with
  | .always => return true
  | .holds condition => return (← evaluate setting fuel condition).isTrue
  | .range first last =>
    let turn (isInside : Bool) : Running Unit :=
      modify fun session => { session with ranges := session.ranges.set! place isInside }
    let isInside := ((← get).ranges[place]?).getD false
    if !isInside && !(← evaluate setting fuel first).isTrue then return false
    turn (!(← evaluate setting fuel last).isTrue)
    return true

/-- Tries the rules on the present record. -/
def applyRules (setting : Setting) (fuel : Nat) : Nat → List Rule → Running Unit
  | _, [] => return
  | place, rule :: rest => do
    if ← isFor setting fuel place rule then
      match rule.action? with
      | some action => perform setting fuel action
      | none =>
        emit ((← textOf (← get).record) ++ (← sharedText Place.outputEnd)) none
    applyRules setting fuel (place + 1) rest

/-- Works on all records. -/
def records (setting : Setting) (fuel : Nat) : Nat → Running Unit
  | 0 => act (Action.hang .endless)
  | count + 1 => do
    modify fun session => { session with steps := stepLimit }
    match ← nextMain setting 1000000 with
    | none => return
    | some record =>
      setRecord (.input record)
      tryCatch (applyRules setting fuel 0 setting.program.rules) fun
        | .next => return
        | .nextFile => modify fun session => { session with main? := none }
        | jump => throw jump
      records setting fuel count

/-- The depth to which statements and calls may be nested. -/
def maxDepth : Nat := 16000000

/-- Leaves what was not read to others, where that is possible. -/
def leaveInput : Running Unit := do
  if (← get).main?.any fun rest => !rest.isEmpty then
    act (modify fun shell => { shell with isStuck := false })

/-- Runs a program; whether it came to its end. -/
def runAll (setting : Setting) : Running Unit := do
  let program := setting.program
  let ended (step : Running Unit) : Running Bool :=
    tryCatch (do
      step
      return true) fun
      | .stop => throw .stop
      | _ => do
        modify fun session => { session with held := 0 }
        return false
  let isOn ← ended (performAll setting maxDepth program.starts)
  let reads := !program.rules.isEmpty || !program.ends.isEmpty
  if reads then
    if isOn then
      if !(← ended (records setting maxDepth maxDepth)) then leaveInput
    let _ ← ended (performAll setting maxDepth program.ends)

end Running

/-- Runs a program with its arguments; the result is its status. -/
def run (setting : Setting) (arguments : List Octets) (assignments : List (Octets × Octets)) :
    Action Nat := do
  let shell ← get
  let count := setting.program.names.size
  let session : Session := {
    globals := Array.replicate count .unset
    lists := Array.replicate count {}
    ranges := setting.program.rules.toArray.map fun _ => false }
  let environment := shell.environment.foldl (fun (made : Collection) (name, value) =>
    made.insert (.name name) (.input value)) {}
  let given := (arguments.zipIdx).foldl (fun (made : Collection) (argument, place) =>
    made.insert (.integer place) (.input argument)) {}
  let step : Running Unit := do
    for (slot, value) in [(Place.recordCount, Value.number 0.0),
        (Place.fileRecordCount, .number 0.0), (Place.fieldCount, .number 0.0),
        (Place.fieldSeparator, .text [' ']), (Place.outputSeparator, .text [' ']),
        (Place.outputEnd, .text ['\n']), (Place.recordSeparator, .text ['\n']),
        (Place.keySeparator, .text ['\x1c']), (Place.numberFormat, .text (octets "%.6g")),
        (Place.outputFormat, .text (octets "%.6g")),
        (Place.argumentCount, .ofNat arguments.length)] do
      Running.setShared slot value
    Running.changeList Place.environment fun _ => environment
    Running.changeList Place.arguments fun _ => given
    for (name, value) in assignments do
      Running.assignNamed setting name value
    Running.runAll setting
  let (_, session) ← step.run.run session
  let (_, session) ← (Running.finishAll setting).run.run session
  return session.status

end PromptScript.Shell.Record
