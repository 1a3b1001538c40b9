import Storefront.Proofs.Json.Writer

/-! Objects whose names ascend are read back from their text, and so is a whole text. -/
namespace Storefront.Json
open Text.Utf8 (encode encodeAppend)

theorem insertLast {members : List (String × Json)} {name : String} (v : Json) (above : ∀ e ∈ members, e.1 < name) :
    insertMember name v members = members ++ [(name, v)] := by
  induction members with
  | nil => rfl
  | cons e rest ih =>
    obtain ⟨n, w⟩ := e
    have less : n < name := above _ List.mem_cons_self
    rw [insertMember, if_neg (String.ne_of_lt less), if_neg (String.lt_asymm less),
      ih fun e member => above e (List.mem_cons_of_mem _ member)]
    rfl

def Ascending (members : List (String × Json)) : Prop := members.Pairwise fun a b => a.1 < b.1

theorem insertAscending {done members : List (String × Json)} (ascending : Ascending (done ++ members)) :
    members.foldl (fun done e => insertMember e.1 e.2 done) done = done ++ members := by
  induction members generalizing done with
  | nil => rw [List.foldl_nil, List.append_nil]
  | cons e rest ih =>
    have above : ∀ d ∈ done, d.1 < e.1 := fun d member =>
      (List.pairwise_append.mp ascending).2.2 d member e List.mem_cons_self
    rw [List.append_cons] at ascending ⊢
    rw [List.foldl_cons, insertLast e.2 above, ih ascending]

theorem takeMemberSpelled {α : Type} {value : α → List Char → Prop} {read : Nat → Bytes → Except Stop (Json × Bytes)}
    {result : α → Json} (law : ReadsSpelled value read result) :
    TakesSpelled value (fun bound => takeMember (read bound)) (fun _ _ => True)
      fun members e => insertMember e.1 (result e.2) members := by
  intro bound members name v w tail _ spelled enough stops
  dsimp only
  rw [takeMember, colonRead law spelled name enough stops]
  rfl

theorem objectValue {α : Type} {value : α → List Char → Prop} {result : α → Json}
    {embedded : Bytes → Except Refusal Json} {depth : Nat}
    (law : ReadsSpelled value (fun bound => readValue embedded bound depth) result)
    {members : List (String × α)} {w : List Char} (spelled : ObjectSpelled value members w)
    (unreserved : ∀ e ∈ members.head?, e.1 ≠ embeddedName) {bound : Nat} (enough : (encode w).length ≤ bound)
    (tail : Bytes) :
    readValue embedded bound (depth + 1) (encode w ++ tail) =
      .ok (.object (members.foldl (fun done e => insertMember e.1 (result e.2) done) []), tail) := by
  have count := spelled.count
  cases spelled with
  | empty before =>
    rw [encodeAscii (by decide), List.cons_append, readValue, solidSkipped (by decide)]
    dsimp only
    rw [if_pos (Or.inr rfl), if_neg (by decide), readObject, noName before]
    rfl
  | @filled e rest b m w before member others =>
    obtain @⟨name, v, text, u, named, valued⟩ := member
    simp only [encodeAppend, encodeAscii (show ('\x7b').toNat < 0x80 by decide), List.length_append, List.length_cons]
      at enough count
    have split : encode ('\x7b' :: (b ++ (text ++ u ++ w))) ++ tail =
        byte '\x7b' :: (encode (b ++ text) ++ (encode u ++ (encode w ++ tail))) := by
      rw [encodeAscii (by decide)]
      simp [encode]
    have first := takeMemberSpelled law bound [] name v u (encode w ++ tail) trivial valued (by omega)
      (others.stops tail)
    have later := restRead (takeMemberSpelled law) others (show _ ≤ bound by omega) (show rest.length < bound by omega)
      (allFit (fun _ _ => trivial) rest (insertMember name (result v) [])) tail
    rw [split, readValue, solidSkipped (by decide)]
    dsimp only at first ⊢
    rw [if_pos (Or.inr rfl), if_neg (by decide), readObject, firstName before named _ (by omega)]
    simp only [bind, Except.bind, if_neg (unreserved _ rfl), first, later]
    rfl

def WrittenBack (depth : Nat) (v : Json) (w : List Char) : Prop := w = v.write ∧ ReadsBack depth v

theorem writtenBackRead (embedded : Bytes → Except Refusal Json) (depth : Nat) :
    ReadsSpelled (WrittenBack depth) (fun bound => readValue embedded bound depth) id := by
  rintro v b w bound tail blank ⟨rfl, back⟩ enough stops
  dsimp only
  rw [encodeAppend, List.append_assoc, blankValue blank]
  exact back embedded bound tail enough stops

theorem objectReadsBack {depth : Nat} {members : List (String × Json)} (back : ∀ e ∈ members, ReadsBack depth e.2)
    (ascending : Ascending members) (unreserved : ∀ e ∈ members.head?, e.1 ≠ embeddedName) :
    ReadsBack (depth + 1) (.object members) := by
  intro embedded bound tail enough _
  have each : ∀ e ∈ members, WrittenBack depth e.2 (write (id e.2)) := fun e member => ⟨rfl, back e member⟩
  have spelled : ObjectSpelled (WrittenBack depth) members (write (.object members)) := by simpa using objectWritten each
  have whole : members.foldl (fun done e => insertMember e.1 e.2 done) [] = members := insertAscending ascending
  have read := objectValue (writtenBackRead embedded depth) spelled unreserved enough tail
  rw [read]
  exact congrArg (fun found => Except.ok (Json.object found, tail)) whole

theorem parseWritten {v : Json} (back : ReadsBack deepest v) : parse (bytesOf v.compact) = .ok v := by
  have text : bytesOf v.compact = encode v.write := by rw [bytesOf, compact, String.toList_ofList]
  have stops : Stops [] := trivial
  have whole := back (parseWithin (encode v.write).length) ((encode v.write).length + 1) [] (Nat.le_succ _) stops
  rw [List.append_nil] at whole
  rw [text, parse, parseWithin, whole]
  rfl

theorem parseTexts (members : List (String × String)) (ascending : members.Pairwise fun a b => a.1 < b.1)
    (unreserved : ∀ e ∈ members.head?, e.1 ≠ embeddedName) :
    parse (bytesOf (Json.object (members.map fun e => (e.1, .text e.2))).compact) =
      .ok (.object (members.map fun e => (e.1, .text e.2))) := by
  refine parseWritten (objectReadsBack (fun e member => ?_) (List.pairwise_map.mpr ascending) ?_)
  · obtain ⟨d, _, rfl⟩ := List.mem_map.mp member
    exact textReadsBack _ _
  · cases members with
    | nil => simp
    | cons d rest => simpa using unreserved d rfl

end Storefront.Json
