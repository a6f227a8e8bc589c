import MessageRelay.Json.Value
import MessageRelay.Proofs.Json.Written
import MessageRelay.Proofs.Text.Digits

/-!
# Values are read as they are written

A reader of a value looks at what stands behind it, since a number goes on as long as digits follow.  Behind a value that
was written stands a comma or a closing bracket, or nothing (`EndsValue`), and in front of that each kind of value is
read as it was written (`Reads`).  For a record this is shown member by member: the members that are written are looked
up one after the other, and each fills its place (`Fills`, `reads_record`).
-/

namespace MessageRelay.Json

/-- What may stand behind a value in a text that was written. -/
def EndsValue (rest : List Char) : Prop :=
  ∀ c ∈ rest.head?, c = ',' ∨ c = '\x7d'

/-- A reader takes what was written for a value, wherever it stands, and gives the value. -/
def Reads {α : Type} (r : Reader α) (w : String) (a : α) : Prop :=
  ∀ rest, EndsValue rest → r (w.toList ++ rest) = .ok (a, rest)

variable {α β σ : Type} {r : Reader α} {w : String} {a : α} {rest : List Char}

lemma endsValue_nil : EndsValue [] := by
  simp [EndsValue]

lemma endsValue_comma (cs : List Char) : EndsValue (',' :: cs) := by
  simp [EndsValue]

lemma endsValue_close (cs : List Char) : EndsValue ('\x7d' :: cs) := by
  simp [EndsValue]

/-! ## Steps of readers -/

/-- What has been read is handed on, together with what is left. -/
lemma bind_eq {cs : List Char} (h : r cs = .ok (a, rest)) (f : α → Reader β) : (r >>= f) cs = f a rest := by
  show Except.bind (r cs) _ = _
  rw [h]
  rfl

lemma peek_eq (cs : List Char) : peek cs = .ok (cs.head?, cs) := rfl

lemma advance_eq (c : Char) (cs : List Char) : advance (c :: cs) = .ok ((), cs) := rfl

lemma peekToken_cons {c : Char} (h : isSpace c = false) (cs : List Char) :
    peekToken (c :: cs) = .ok (some c, c :: cs) := by
  simp [peekToken, h]

lemma colon_eq (cs : List Char) : colon (':' :: cs) = .ok ((), cs) := rfl

lemma Reads.map {f : α → β} {b : β} (h : Reads r w a) (hf : f a = b) : Reads (r >>= fun x => pure (f x)) w b := by
  intro rest hrest
  rw [bind_eq (h rest hrest), hf]
  rfl

/-- A text holds a value if a reader takes what was written for it. -/
lemma Reads.runWhole (h : Reads r w a) : r.runWhole w = .ok a := by
  have hwhole := h [] endsValue_nil
  rw [List.append_nil] at hwhole
  simp [Reader.runWhole, hwhole]

/-! ## Texts -/

lemma reads_textFor (expected s : String) : Reads (textFor expected) (string s) s := by
  intro rest _
  rw [toList_string, List.cons_append, List.append_assoc, List.singleton_append]
  unfold textFor
  rw [bind_eq (peekToken_cons rfl _)]
  exact quotedRest_escape rest s

lemma reads_text (s : String) : Reads text (string s) s :=
  reads_textFor "a string" s

/-- A choice is read from its name. -/
lemma reads_choice {choices : List (String × α)} {name : String} (h : choices.lookup name = some a) :
    Reads (choice choices) (string name) a := by
  intro rest hrest
  have hname : chosenName choices ((string name).toList ++ rest) = .ok (a, rest) := by
    unfold chosenName
    rw [bind_eq (reads_textFor "variant identifier" name rest hrest), h]
    rfl
  rw [toList_string, List.cons_append] at hname ⊢
  unfold choice
  rw [bind_eq (peekToken_cons rfl _)]
  exact hname

/-! ## Numbers -/

lemma isDigit_iff (c : Char) : isDigit c = c.isDigit := by
  simp [isDigit, Char.isDigit, Char.le_def]

lemma digitValue_digitChar {d : ℕ} (h : d < 10) : digitValue d.digitChar = d := by
  decide +revert

/-- The digits of a number that is small enough are its significand. -/
lemma absorb_toDigits {n : ℕ} (hn : n < UInt64.size) : absorb 0 (Nat.toDigits 10 n) = (n, []) := by
  have habsorb : ∀ more, absorb 0 (Nat.toDigits 10 n ++ more) = absorb n more := by
    revert hn
    refine Text.toDigits_induction (P := fun n ds => n < UInt64.size → ∀ more, absorb 0 (ds ++ more) = absorb n more)
      (by decide) (fun d hd hn more => ?_) (fun n d _ hd ih hn more => ?_) n
    · simp [absorb, digitValue_digitChar hd, hn]
    · have hn' : n < UInt64.size := by omega
      rw [List.append_assoc, ih hn']
      simp [absorb, digitValue_digitChar hd, hn]
  simpa [absorb] using habsorb []

/-- A number ends where its digits end. -/
lemma afterWhole_of_ends (hrest : EndsValue rest) (n : ℕ) : afterWhole true n [] rest = .ok (.natural n, rest) := by
  unfold afterWhole
  rw [bind_eq (peek_eq rest)]
  cases rest with
  | nil => rfl
  | cons c cs =>
    -- neither a point nor an exponent
    rcases hrest c rfl with rfl | rfl <;> rfl

lemma digits_toDigits (hrest : EndsValue rest) (n : ℕ) :
    digits (Nat.toDigits 10 n ++ rest) = .ok (Nat.toDigits 10 n, rest) := by
  have hdigits : ∀ c ∈ Nat.toDigits 10 n, isDigit c = true := fun c hc =>
    (isDigit_iff c).trans (Nat.isDigit_of_mem_toDigits (by decide) (by decide) hc)
  have hstop : rest.takeWhile isDigit = [] ∧ rest.dropWhile isDigit = rest := by
    cases rest with
    | nil => exact ⟨rfl, rfl⟩
    | cons c cs => rcases hrest c rfl with rfl | rfl <;> exact ⟨rfl, rfl⟩
  simp [digits, List.takeWhile_append_of_pos hdigits, List.dropWhile_append_of_pos hdigits, hstop]

/-- A number is read from its digits. -/
lemma number_toDigits {n : ℕ} (hn : n < UInt64.size) (hrest : EndsValue rest) :
    number true (Nat.toDigits 10 n ++ rest) = .ok (.natural n, rest) := by
  obtain ⟨c, cs, hcs⟩ := List.exists_cons_of_ne_nil (Nat.toDigits_ne_nil (n := n) (b := 10))
  have hhead : (Nat.toDigits 10 n ++ rest).head? = some c := by rw [hcs]; rfl
  unfold number
  rw [bind_eq (peek_eq _), hhead]
  by_cases hzero : n = 0
  · subst hzero
    obtain ⟨rfl, rfl⟩ : '0' = c ∧ [] = cs := by simpa using hcs
    show (advance >>= _) ('0' :: rest) = _
    rw [bind_eq (advance_eq '0' rest), bind_eq (peek_eq rest)]
    cases hrest' : rest.head? with
    | none => exact afterWhole_of_ends hrest 0
    | some c =>
      -- no further digit may follow a zero
      rcases hrest c hrest' with rfl | rfl <;> exact afterWhole_of_ends hrest 0
  · have hne : c ≠ '0' := by
      rintro rfl
      exact hzero (Text.eq_zero_of_head?_toDigits (by decide) (by decide) (congrArg List.head? hcs))
    have hdigit : isDigit c = true := by
      rw [isDigit_iff]
      exact Nat.isDigit_of_mem_toDigits (by decide) (by decide) (hcs ▸ List.mem_cons_self : c ∈ Nat.toDigits 10 n)
    simp only [hdigit, if_true]
    rw [bind_eq (digits_toDigits hrest n), absorb_toDigits hn]
    exact afterWhole_of_ends hrest n

lemma toList_nat (n : ℕ) : (nat n).toList = Nat.toDigits 10 n := Nat.toList_repr

/-- A number in the range that is asked for is read as it is written. -/
lemma reads_natBelow {bound n : ℕ} (hn : n < bound) (hbound : bound ≤ UInt64.size) (expected : String) :
    Reads (natBelow bound expected) (nat n) n := by
  intro rest hrest
  obtain ⟨c, cs, hcs⟩ := List.exists_cons_of_ne_nil (Nat.toDigits_ne_nil (n := n) (b := 10))
  have hdigit : c.isDigit = true :=
    Nat.isDigit_of_mem_toDigits (by decide) (by decide) (hcs ▸ List.mem_cons_self : c ∈ Nat.toDigits 10 n)
  have hne : c ≠ '-' := by
    rintro rfl
    cases hdigit
  have hspace : isSpace c = false := by
    rw [← Bool.not_eq_true]
    intro hspace
    simp only [isSpace, Bool.or_eq_true, beq_iff_eq] at hspace
    rcases hspace with ((rfl | rfl) | rfl) | rfl <;> cases hdigit
  have hpeek : peekToken (Nat.toDigits 10 n ++ rest) = .ok (some c, Nat.toDigits 10 n ++ rest) := by
    rw [hcs]
    exact peekToken_cons hspace _
  rw [toList_nat]
  unfold natBelow
  rw [bind_eq hpeek]
  simp only [(isDigit_iff c).trans hdigit, if_true]
  rw [bind_eq (number_toDigits (hn.trans_le hbound) hrest)]
  simp only [hn, if_true]
  rfl

lemma reads_nat64 (x : UInt64) : Reads nat64 (nat x.toNat) x.toNat :=
  reads_natBelow x.toNat_lt le_rfl "u64"

lemma reads_nat32 (x : UInt32) : Reads nat32 (nat x.toNat) x.toNat :=
  reads_natBelow x.toNat_lt (by decide) "u32"

/-! ## Values that may be absent -/

lemma reads_null (r : Reader α) : Reads (nullable r) null none := by
  intro rest _
  rfl

/-- A value that is there is read as such, as long as it does not begin like the word for absence. -/
lemma Reads.nullable (h : Reads r w a) {c : Char} {cs : List Char} (hw : w.toList = c :: cs) (hc : c ≠ 'n')
    (hspace : isSpace c = false) : Reads (nullable r) w (some a) := by
  intro rest hrest
  have hvalue := h rest hrest
  rw [hw, List.cons_append] at hvalue ⊢
  unfold Json.nullable
  rw [bind_eq (peekToken_cons hspace _)]
  have hc' : some c ≠ some 'n' := by simpa using hc
  generalize some c = next at hc'
  split
  · exact absurd rfl hc'
  · rw [bind_eq hvalue]
    rfl

/-- A text may be absent. -/
lemma reads_nullable_text (s : Option String) : Reads (nullable text) ((s.map string).getD null) s := by
  cases s with
  | none => exact reads_null text
  | some s => exact (reads_text s).nullable (toList_string s) (by decide) rfl

/-- What is written as an object may be absent. -/
lemma reads_nullable_object {write : α → String} {members : α → List (String × String)}
    (hwrite : ∀ a, write a = object (members a)) (h : ∀ a, Reads r (write a) a) (a? : Option α) :
    Reads (nullable r) ((a?.map write).getD null) a? := by
  cases a? with
  | none => exact reads_null r
  | some a => exact (h a).nullable (by rw [hwrite, toList_object]) (by decide) rfl

/-! ## Records -/

/-- Members that are written one after the other fill the places of a record, whose values they take from what is
written for them. -/
inductive Fills (shape : Shape σ) : List (String × String) → σ → σ → Prop where
  | done {value last : σ} (h : value = last) : Fills shape [] value last
  | cons {name w : String} {m : Member σ} {value next last : σ} {members : List (String × String)}
    (hfind : shape.members.find? (·.name == name) = some m) (hread : Reads (m.read value) w next)
    (hrest : Fills shape members next last) : Fills shape ((name, w) :: members) value last

lemma moreMembers_nil (first : Bool) (cs : List Char) :
    moreMembers first ('\x7d' :: cs) = .ok (false, '\x7d' :: cs) := rfl

/-- Whether it is the first one or not, the next member begins with its name. -/
lemma moreMembers_cons (first : Bool) (m : String × String) (members : List (String × String)) :
    moreMembers first (membersText first (m :: members) ++ rest) =
      .ok (true, membersText true (m :: members) ++ rest) := by
  cases first <;> simp only [membersText_false, membersText_true, toList_string, List.cons_append] <;> rfl

/-- Members that fill a record are read so, if no two of them have the same name. -/
lemma namedMembers_of_fills {shape : Shape σ} {members : List (String × String)} {value last : σ}
    (h : Fills shape members value last) {fuel : ℕ} (hfuel : members.length < fuel) {seen : List String}
    (hseen : ∀ m ∈ members, m.1 ∉ seen) (hnodup : (members.map Prod.fst).Nodup) (first : Bool) :
    namedMembers shape fuel first seen value (membersText first members ++ '\x7d' :: rest) = .ok (last, rest) := by
  induction h generalizing fuel seen first with
  | done hlast =>
    obtain ⟨fuel, rfl⟩ := Nat.exists_eq_add_one_of_ne_zero (Nat.ne_zero_of_lt hfuel)
    unfold namedMembers
    rw [membersText_nil, List.nil_append, bind_eq (moreMembers_nil first rest), hlast]
    rfl
  | @cons name w m value next last members hfind hread _ ih =>
    obtain ⟨fuel, rfl⟩ := Nat.exists_eq_add_one_of_ne_zero (Nat.ne_zero_of_lt hfuel)
    rw [List.map_cons, List.nodup_cons] at hnodup
    have hends : EndsValue (membersText false members ++ '\x7d' :: rest) := by
      cases members with
      | nil => exact endsValue_close rest
      | cons m' members => exact endsValue_comma _
    have hnew : seen.contains name = false := by simpa using hseen (name, w) List.mem_cons_self
    have hlater : ∀ m ∈ members, m.1 ∉ name :: seen := by
      intro m hm
      rw [List.mem_cons, not_or]
      exact ⟨fun heq => hnodup.1 (List.mem_map.2 ⟨m, hm, heq⟩), hseen m (List.mem_cons_of_mem _ hm)⟩
    unfold namedMembers
    rw [bind_eq (moreMembers_cons first (name, w) members), if_pos rfl, membersText_true, toList_string]
    simp only [List.cons_append, List.append_assoc, List.nil_append]
    rw [bind_eq (advance_eq _ _), bind_eq (quotedRest_escape _ name), hfind]
    simp only [hnew, Bool.false_eq_true, if_false]
    rw [bind_eq (colon_eq _), bind_eq (hread _ hends)]
    exact ih (Nat.lt_of_succ_lt_succ hfuel) hlater hnodup.2 false

lemma length_le_membersText (first : Bool) (members : List (String × String)) :
    members.length ≤ (membersText first members).length := by
  induction members generalizing first with
  | nil => simp
  | cons m members ih =>
    have hrest := ih false
    cases first <;> simp [membersText_false, membersText_true] <;> omega

/-- **A record is read from an object** whose members fill it. -/
lemma reads_record {shape : Shape σ} {members : List (String × String)} {default value : σ}
    (hnodup : (members.map Prod.fst).Nodup) (h : Fills shape members default value) :
    Reads (record shape default) (object members) value := by
  intro rest _
  have hlength := length_le_membersText true members
  rw [toList_object, List.cons_append, List.append_assoc, List.singleton_append]
  unfold record
  rw [bind_eq (peekToken_cons rfl _)]
  show (advance >>= _) _ = _
  rw [bind_eq (advance_eq _ _)]
  show namedMembers shape _ true [] default _ = _
  exact namedMembers_of_fills h (by simp; omega) (by simp) hnodup true

end MessageRelay.Json
