import Mathlib.Data.List.Basic
import Storefront.Proofs.Sql.Token
import Storefront.Text.Split

/-! Reading statements. A command that is written as text is read back from it as it was, as long
as its names have no quotes in them and none of its lists is empty. -/
namespace Storefront.Sql

def keyword (word : String) : Token := .word word.toList

def symbol (c : Char) : Token := .symbol c

def readName : List Token → Option String
  | [.name text] => some (String.ofList text)
  | _ => none

def readParameter : List Token → Option Nat
  | [.parameter n] => some n
  | _ => none

def readAssignment : List Token → Option (String × String)
  | [.name column, equals, excluded, dot, .name source] =>
    if [equals, excluded, dot] = [symbol '=', keyword "excluded", symbol '.'] then
      some (String.ofList column, String.ofList source)
    else none
  | _ => none

def readList {α : Type} (item : List Token → Option α) (tokens : List Token) : Option (List α) :=
  (tokens.splitOn (symbol ',')).mapM item

def readUpTo (stop : Token) (tokens : List Token) : Option (List Token × List Token) :=
  match Text.cut stop tokens with
  | (before, some rest) => some (before, rest)
  | (_, none) => none

def readSelect (tokens : List Token) : Option Command := do
  let rest ← tokens.dropPrefix? [keyword "select"]
  let (columns, table) ← readUpTo (keyword "from") rest
  some (.select (← readList readName columns) (← readName table))

def readUpsert (tokens : List Token) : Option Command := do
  let rest ← tokens.dropPrefix? [keyword "insert", keyword "into"]
  let (table, rest) ← readUpTo (symbol '(') rest
  let (columns, rest) ← readUpTo (symbol ')') rest
  let rest ← rest.dropPrefix? [keyword "values", symbol '(']
  let (values, rest) ← readUpTo (symbol ')') rest
  let rest ← rest.dropPrefix? [keyword "on", keyword "conflict", symbol '(']
  let (key, rest) ← readUpTo (symbol ')') rest
  let rest ← rest.dropPrefix? [keyword "do", keyword "update", keyword "set"]
  let (assignments, returning) ← readUpTo (keyword "returning") rest
  some (.upsert (← readName table) (← readList readName columns) (← readList readParameter values)
    (← readName key) (← readList readAssignment assignments) (← readList readName returning))

def Command.read? (text : String) : Option Command :=
  (tokens? text).bind fun tokens => readSelect tokens <|> readUpsert tokens

theorem dropFront (front rest : List Token) : (front ++ rest).dropPrefix? front = some rest :=
  List.dropPrefix?_append_of_beq rest BEq.rfl

theorem upTo {stop : Token} {before : List Token} (absent : stop ∉ before) (rest : List Token) :
    readUpTo stop (before ++ stop :: rest) = some (before, rest) := by
  have other : ∀ t ∈ before, decide (t ≠ stop) = true := fun t member =>
    decide_eq_true fun same => absent (same ▸ member)
  have dropped : (before ++ stop :: rest).dropWhile (· ≠ stop) = stop :: rest := by
    rw [List.dropWhile_append_of_pos other]
    simp
  have taken : (before ++ stop :: rest).takeWhile (· ≠ stop) = before := by
    rw [List.takeWhile_append_of_pos other]
    simp
  simp only [readUpTo, Text.cut, dropped, taken]

section Lists
variable {α : Type}

def listed (tokens : α → List Token) (items : List α) : List Token :=
  [symbol ','].intercalate (items.map tokens)

theorem listedMember {tokens : α → List Token} {items : List α} {t : Token} (member : t ∈ listed tokens items) :
    t = symbol ',' ∨ ∃ x ∈ items, t ∈ tokens x := by
  induction items with
  | nil => exact absurd member List.not_mem_nil
  | cons x rest ih =>
    cases rest with
    | nil => exact .inr ⟨x, List.mem_cons_self, by simpa [listed] using member⟩
    | cons y more =>
      have parts : t ∈ tokens x ∨ t = symbol ',' ∨ t ∈ listed tokens (y :: more) := by
        simpa [listed, List.intercalate_cons_cons] using member
      obtain first | comma | later := parts
      · exact .inr ⟨x, List.mem_cons_self, first⟩
      · exact .inl comma
      · exact (ih later).imp_right fun ⟨z, inside, found⟩ => ⟨z, List.mem_cons_of_mem x inside, found⟩

theorem readItems {item : List Token → Option α} {tokens : α → List Token} {items : List α}
    (each : ∀ x ∈ items, item (tokens x) = some x) : (items.map tokens).mapM item = some items := by
  induction items with
  | nil => rfl
  | cons x rest ih =>
    have first := each x List.mem_cons_self
    have later := ih fun y member => each y (List.mem_cons_of_mem x member)
    rw [List.map_cons, List.mapM_cons, first, later]
    rfl

theorem readListed {item : List Token → Option α} {tokens : α → List Token} {items : List α} (several : items ≠ [])
    (apart : ∀ x ∈ items, symbol ',' ∉ tokens x) (each : ∀ x ∈ items, item (tokens x) = some x) :
    readList item (listed tokens items) = some items := by
  have parts : ∀ l ∈ items.map tokens, symbol ',' ∉ l := by
    intro l member
    obtain ⟨x, inside, rfl⟩ := List.mem_map.mp member
    exact apart x inside
  have parted : items.map tokens ≠ [] := fun none => several (List.map_eq_nil_iff.mp none)
  rw [readList, listed, List.splitOn_intercalate _ parts parted]
  exact readItems each

theorem listedApart {stop : Token} (other : stop ≠ symbol ',') {tokens : α → List Token} {items : List α}
    (apart : ∀ x ∈ items, stop ∉ tokens x) : stop ∉ listed tokens items := by
  intro member
  obtain comma | ⟨x, inside, found⟩ := listedMember member
  · exact other comma
  · exact apart x inside found

end Lists

def Unquoted (name : String) : Prop := '"' ∉ name.toList

def nameTokens (name : String) : List Token := [.name name.toList]

def parameterTokens (n : Nat) : List Token := [.parameter n]

def assignmentTokens (a : String × String) : List Token :=
  [.name a.1.toList, symbol '=', keyword "excluded", symbol '.', .name a.2.toList]

theorem columnsWrite {columns : List String} (plain : ∀ c ∈ columns, Unquoted c) :
    Writes (columnList columns).toList (listed nameTokens columns) :=
  commaWrites fun c member => nameWrites (plain c member)

theorem assignmentWrites {a : String × String} (column : Unquoted a.1) (source : Unquoted a.2) :
    Writes (assignmentText a).toList (assignmentTokens a) := by
  have equals : Ends " = EXCLUDED.".toList [symbol '=', keyword "excluded", symbol '.'] := rfl
  have both := ((nameWrites column).then equals ⟨' ', _, rfl, rfl⟩).then (nameWrites source)
  simpa [assignmentText, assignmentTokens] using both

def Command.tokens : Command → List Token
  | .select columns table =>
    [keyword "select"] ++ (listed nameTokens columns ++ keyword "from" :: nameTokens table)
  | .upsert table columns values key assignments returning =>
    [keyword "insert", keyword "into"] ++ (nameTokens table ++ symbol '(' ::
      (listed nameTokens columns ++ symbol ')' :: ([keyword "values", symbol '('] ++
      (listed parameterTokens values ++ symbol ')' ::
      ([keyword "on", keyword "conflict", symbol '('] ++ (nameTokens key ++ symbol ')' ::
      ([keyword "do", keyword "update", keyword "set"] ++
      (listed assignmentTokens assignments ++ keyword "returning" :: listed nameTokens returning))))))))

def Command.Readable : Command → Prop
  | .select columns table => columns ≠ [] ∧ ∀ name ∈ table :: columns, Unquoted name
  | .upsert table columns values key assignments returning =>
    columns ≠ [] ∧ values ≠ [] ∧ assignments ≠ [] ∧ returning ≠ [] ∧
      (∀ name ∈ table :: key :: columns ++ returning, Unquoted name) ∧
      ∀ a ∈ assignments, Unquoted a.1 ∧ Unquoted a.2

theorem selectWrites {columns : List String} {table : String} (names : ∀ c ∈ columns, Unquoted c)
    (name : Unquoted table) :
    Writes (Command.select columns table).text.toList (Command.select columns table).tokens := by
  have text : (Command.select columns table).text = "SELECT " ++ columnList columns ++ " FROM " ++ quote table := rfl
  have opens : Ends "SELECT ".toList [keyword "select"] := rfl
  have turns : Ends " FROM ".toList [keyword "from"] := rfl
  have whole := ((opens.then (columnsWrite names)).then turns ⟨' ', _, rfl, rfl⟩).then (nameWrites name)
  rw [text]
  simpa only [Command.tokens, nameTokens, String.toList_append, List.append_assoc, List.cons_append,
    List.nil_append] using whole

theorem upsertWrites {table key : String} {columns returning : List String} {values : List Nat}
    {assignments : List (String × String)} (tableName : Unquoted table) (keyName : Unquoted key)
    (names : ∀ c ∈ columns, Unquoted c) (returned : ∀ c ∈ returning, Unquoted c)
    (assigned : ∀ a ∈ assignments, Unquoted a.1 ∧ Unquoted a.2) :
    Writes (Command.upsert table columns values key assignments returning).text.toList
      (Command.upsert table columns values key assignments returning).tokens := by
  have text : (Command.upsert table columns values key assignments returning).text =
      "INSERT INTO " ++ quote table ++ " (" ++ columnList columns ++ ") VALUES (" ++
        commaList (values.map placeholder) ++ ") ON CONFLICT (" ++ quote key ++ ") DO UPDATE SET " ++
        commaList (assignments.map assignmentText) ++ " RETURNING " ++ columnList returning := rfl
  -- a literal begins and ends with a space or a symbol, which keeps the tokens around it apart
  have inserts : Ends "INSERT INTO ".toList [keyword "insert", keyword "into"] := rfl
  have opens : Ends " (".toList [symbol '('] := rfl
  have turns : Ends ") VALUES (".toList [symbol ')', keyword "values", symbol '('] := rfl
  have clashes : Ends ") ON CONFLICT (".toList [symbol ')', keyword "on", keyword "conflict", symbol '('] := rfl
  have overwrites : Ends ") DO UPDATE SET ".toList [symbol ')', keyword "do", keyword "update", keyword "set"] := rfl
  have returns : Ends " RETURNING ".toList [keyword "returning"] := rfl
  have parameters : Writes (commaList (values.map placeholder)).toList (listed parameterTokens values) :=
    commaWrites fun n _ => parameterWrites n
  have assignment : Writes (commaList (assignments.map assignmentText)).toList (listed assignmentTokens assignments) :=
    commaWrites fun a member => assignmentWrites (assigned a member).1 (assigned a member).2
  have named := (inserts.then (nameWrites tableName)).then opens ⟨' ', _, rfl, rfl⟩
  have columned := (named.then (columnsWrite names)).then turns ⟨')', _, rfl, rfl⟩
  have valued := (columned.then parameters).then clashes ⟨')', _, rfl, rfl⟩
  have keyed := (valued.then (nameWrites keyName)).then overwrites ⟨')', _, rfl, rfl⟩
  have whole := ((keyed.then assignment).then returns ⟨' ', _, rfl, rfl⟩).then (columnsWrite returned)
  rw [text]
  simpa only [Command.tokens, nameTokens, String.toList_append, List.append_assoc, List.cons_append,
    List.nil_append] using whole

theorem nameRead (name : String) : readName (nameTokens name) = some name :=
  congrArg some String.ofList_toList

theorem nameListRead {names : List String} (several : names ≠ []) :
    readList readName (listed nameTokens names) = some names :=
  readListed several (fun _ _ => by simp [symbol, nameTokens]) fun name _ => nameRead name

theorem parameterListRead {values : List Nat} (several : values ≠ []) :
    readList readParameter (listed parameterTokens values) = some values :=
  readListed several (fun _ _ => by simp [symbol, parameterTokens]) fun _ _ => rfl

theorem assignmentListRead {assignments : List (String × String)} (several : assignments ≠ []) :
    readList readAssignment (listed assignmentTokens assignments) = some assignments :=
  readListed several (fun _ _ => by simp [symbol, keyword, assignmentTokens]) fun a _ => by
    simp [readAssignment, assignmentTokens]

theorem selectRead {columns : List String} (several : columns ≠ []) (table : String) :
    readSelect (Command.select columns table).tokens = some (.select columns table) := by
  have columnsEnd : keyword "from" ∉ listed nameTokens columns :=
    listedApart (by decide) fun _ _ => by simp [keyword, nameTokens]
  simp only [readSelect, Command.tokens, dropFront, upTo columnsEnd, nameListRead several, nameRead, bind, Option.bind]

theorem upsertRead {columns returning : List String} {values : List Nat} {assignments : List (String × String)}
    (several : columns ≠ []) (bound : values ≠ []) (assigned : assignments ≠ []) (returned : returning ≠ [])
    (table key : String) :
    readUpsert (Command.upsert table columns values key assignments returning).tokens =
      some (.upsert table columns values key assignments returning) := by
  have nameEnds : ∀ (c : Char) (name : String), symbol c ∉ nameTokens name := fun _ _ => by simp [symbol, nameTokens]
  have columnsEnd : symbol ')' ∉ listed nameTokens columns := listedApart (by decide) fun name _ => nameEnds ')' name
  have valuesEnd : symbol ')' ∉ listed parameterTokens values :=
    listedApart (by decide) fun _ _ => by simp [symbol, parameterTokens]
  have assignmentsEnd : keyword "returning" ∉ listed assignmentTokens assignments :=
    listedApart (by decide) fun _ _ => by simp [symbol, keyword, assignmentTokens]
  simp only [readUpsert, Command.tokens, dropFront, upTo (nameEnds _ _), upTo columnsEnd, upTo valuesEnd,
    upTo assignmentsEnd, nameListRead several, nameListRead returned, parameterListRead bound,
    assignmentListRead assigned, nameRead, bind, Option.bind]

theorem commandRead {c : Command} (readable : c.Readable) : Command.read? c.text = some c := by
  cases c with
  | select columns table =>
    obtain ⟨several, names⟩ := readable
    have listed : ∀ c ∈ columns, Unquoted c := fun c member => names c (List.mem_cons_of_mem table member)
    have writes := selectWrites listed (names table List.mem_cons_self)
    rw [Command.read?, writes.read, Option.bind_some, selectRead several]
    rfl
  | upsert table columns values key assignments returning =>
    obtain ⟨several, bound, assigned, returned, names, assignments⟩ := readable
    have named : ∀ c ∈ columns, Unquoted c := fun c member => names c (by simp [member])
    have returns : ∀ c ∈ returning, Unquoted c := fun c member => names c (by simp [member])
    have writes := @upsertWrites table key columns returning values _ (names table (by simp)) (names key (by simp))
      named returns assignments
    rw [Command.read?, writes.read, Option.bind_some, upsertRead several bound assigned returned]
    rfl

example : Command.read? (Command.select ["order_id"] "or\"ders").text = none := by decide +kernel

end Storefront.Sql
