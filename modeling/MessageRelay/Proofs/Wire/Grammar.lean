import MessageRelay.Wire.Field
import MessageRelay.Proofs.Wire.Varint

/-!
# What a field is

The grammar of fields, without any reader: a key, a value for each wire type, and `IsField`, a whole
field at some depth.  A group is a key, fields one level deeper, and an end key of the same number.

Stepping over fields goes through the bytes with a stack of the groups that are open.  `IsTail` says what
such a stack still needs, and the two agree (`skipGroups_eq_ok_iff`): a field that begins is pushed and
what follows is read at the greater depth, so the fields of the inner group and those behind it lie in
two layers of the tail.
-/

namespace MessageRelay.Wire

/-! ## The grammar -/

/-- The number of a wire type. -/
def WireType.code : WireType → Nat
  | varint => 0
  | fixed64 => 1
  | delimited => 2
  | groupStart => 3
  | groupEnd => 4
  | fixed32 => 5

/-- A written form of a key: its number has 32 bits at most, and the field number is not 0. -/
structure IsKey (b : Bytes) (number : Nat) (wireType : WireType) : Prop where
  varint : IsVarint b (number * 8 + wireType.code)
  lt_size : number * 8 + wireType.code < UInt32.size
  number_ne : number ≠ 0

/-- A value that is not a group. -/
inductive IsValue : WireType → Bytes → Prop
  | varint {b : Bytes} {n : Nat} (h : IsVarint b n) : IsValue .varint b
  | fixed64 {b : Bytes} (h : b.length = 8) : IsValue .fixed64 b
  | fixed32 {b : Bytes} (h : b.length = 4) : IsValue .fixed32 b
  | delimited {size content : Bytes} (h : IsVarint size content.length) :
    IsValue .delimited (size ++ content)

/-- Some pieces of input, one after the other. -/
def concat {α : Type} (pieces : List (α × Bytes)) : Bytes :=
  (pieces.map (·.2)).flatten

/-- A field with the given number at the given depth, which is 100 at most.  A group has fields that are
one level deeper and an end key of its own number. -/
inductive IsField : Nat → Nat → Bytes → Prop
  | value {depth number : Nat} {wireType : WireType} {key value : Bytes} (hdepth : depth ≤ 100)
    (hkey : IsKey key number wireType) (hvalue : IsValue wireType value) :
    IsField depth number (key ++ value)
  | group {depth number : Nat} {start stop : Bytes} {fields : List (Nat × Bytes)}
    (hdepth : depth ≤ 100) (hstart : IsKey start number .groupStart)
    (hfields : ∀ f ∈ fields, IsField (depth + 1) f.1 f.2) (hstop : IsKey stop number .groupEnd) :
    IsField depth number (start ++ concat fields ++ stop)

@[simp] lemma concat_nil {α : Type} : concat ([] : List (α × Bytes)) = [] := rfl

@[simp] lemma concat_cons {α : Type} (piece : α × Bytes) (rest : List (α × Bytes)) :
    concat (piece :: rest) = piece.2 ++ concat rest := by
  simp [concat]

lemma concat_append {α : Type} (pieces more : List (α × Bytes)) :
    concat (pieces ++ more) = concat pieces ++ concat more := by
  simp [concat]

variable {b rest content : Bytes} {number n : Nat} {wireType : WireType}

/-! ## Keys and values -/

lemma ofCode?_eq_some_iff {code : Nat} :
    WireType.ofCode? code = some wireType ↔ wireType.code = code := by
  constructor
  · intro h
    unfold WireType.ofCode? at h
    split at h <;> cases h <;> rfl
  · rintro rfl
    cases wireType <;> rfl

lemma code_lt (wireType : WireType) : wireType.code < 8 := by
  cases wireType <;> decide

/-- Reading accepts every written form of a key, and nothing else. -/
lemma readKey_eq_ok_iff :
    readKey b = .ok (⟨number, wireType⟩, rest) ↔ ∃ p, b = p ++ rest ∧ IsKey p number wireType := by
  constructor
  · intro h
    unfold readKey at h
    split at h
    · cases h
    · next value r hr =>
      obtain ⟨p, rfl, hp⟩ := Varint.read?_eq_some_iff.1 hr
      split at h
      · cases h
      · next hsize =>
        split at h
        · cases h
        · next w hw =>
          split at h
          · cases h
          · next hne =>
            cases h
            have hcode := ofCode?_eq_some_iff.1 hw
            -- the wire type is in the lowest three bits, the number in the others
            have hvalue : value / 8 * 8 + wireType.code = value := by omega
            refine ⟨p, rfl, ?_, ?_, hne⟩
            · rwa [hvalue]
            · rw [hvalue]
              omega
  · rintro ⟨p, rfl, hp, hlt, hne⟩
    have hcode := code_lt wireType
    have hmod : (number * 8 + wireType.code) % 8 = wireType.code := by omega
    have hdiv : (number * 8 + wireType.code) / 8 = number := by omega
    simp only [readKey, Varint.read?_append hp, hmod, hdiv, ofCode?_eq_some_iff.2 rfl,
      if_neg hne, if_neg (Nat.not_le_of_lt hlt)]

lemma readKey_append {key : Bytes} (h : IsKey key number wireType) (rest : Bytes) :
    readKey (key ++ rest) = .ok (⟨number, wireType⟩, rest) :=
  readKey_eq_ok_iff.2 ⟨key, rfl, h⟩

lemma skipBytes_eq_ok_iff {count : Nat} :
    skipBytes count b = .ok rest ↔ ∃ p, b = p ++ rest ∧ p.length = count := by
  unfold skipBytes
  constructor
  · intro h
    split at h
    · cases h
    · cases h
      refine ⟨b.take count, (List.take_append_drop count b).symm, ?_⟩
      rw [List.length_take]
      omega
  · rintro ⟨p, rfl, rfl⟩
    simp

lemma readDelimited_eq_ok_iff :
    readDelimited b = .ok (content, rest) ↔
      ∃ size, b = size ++ content ++ rest ∧ IsVarint size content.length := by
  constructor
  · intro h
    unfold readDelimited at h
    split at h
    · cases h
    · next count r hr =>
      obtain ⟨size, rfl, hsize⟩ := Varint.read?_eq_some_iff.1 hr
      split at h
      · cases h
      · next hle =>
        cases h
        have hlen : (r.take count).length = count := by
          rw [List.length_take]
          omega
        refine ⟨size, ?_, ?_⟩
        · rw [List.append_assoc, List.take_append_drop]
        · rwa [hlen]
  · rintro ⟨size, rfl, hsize⟩
    rw [List.append_assoc]
    simp [readDelimited, Varint.read?_append hsize]

/-- Stepping over a value that is not a group accepts what the wire type says. -/
lemma skipValue_eq_ok_iff (h : wireType ≠ .groupStart) :
    skipValue wireType b = .ok rest ↔ ∃ p, b = p ++ rest ∧ IsValue wireType p := by
  cases wireType with
  | varint =>
    simp only [skipValue, readVarint]
    constructor
    · intro h
      split at h
      · cases h
      · next r hr =>
        obtain ⟨n, rest'⟩ := r
        cases h
        obtain ⟨p, hb, hp⟩ := Varint.read?_eq_some_iff.1 hr
        exact ⟨p, hb, .varint hp⟩
    · rintro ⟨p, rfl, hp⟩
      cases hp with
      | varint hp => rw [Varint.read?_append hp]; rfl
  | fixed64 =>
    rw [skipValue, skipBytes_eq_ok_iff]
    constructor
    · rintro ⟨p, hb, hp⟩
      exact ⟨p, hb, .fixed64 hp⟩
    · rintro ⟨p, hb, hp⟩
      cases hp with
      | fixed64 hp => exact ⟨p, hb, hp⟩
  | delimited =>
    simp only [skipValue]
    constructor
    · intro h
      cases hr : readDelimited b with
      | error e => rw [hr] at h; cases h
      | ok r =>
        obtain ⟨content, rest'⟩ := r
        rw [hr] at h
        cases h
        obtain ⟨size, hb, hsize⟩ := readDelimited_eq_ok_iff.1 hr
        exact ⟨size ++ content, hb, .delimited hsize⟩
    · rintro ⟨p, rfl, hp⟩
      cases hp with
      | delimited hsize => rw [readDelimited_eq_ok_iff.2 ⟨_, rfl, hsize⟩]; rfl
  | groupStart => exact absurd rfl h
  | groupEnd =>
    simp only [skipValue]
    constructor
    · intro h
      cases h
    · rintro ⟨p, -, hp⟩
      cases hp
  | fixed32 =>
    rw [skipValue, skipBytes_eq_ok_iff]
    constructor
    · rintro ⟨p, hb, hp⟩
      exact ⟨p, hb, .fixed32 hp⟩
    · rintro ⟨p, hb, hp⟩
      cases hp with
      | fixed32 hp => exact ⟨p, hb, hp⟩

lemma skipValue_append {value : Bytes} (h : IsValue wireType value) (rest : Bytes) :
    skipValue wireType (value ++ rest) = .ok rest := by
  have hne : wireType ≠ .groupStart := by
    rintro rfl
    cases h
  exact (skipValue_eq_ok_iff hne).2 ⟨value, rfl, h⟩

/-! ## Groups -/

variable {groups outer : List Nat} {innermost : Nat}

lemma skipGroups_nil (b : Bytes) : skipGroups [] b = .ok b := by
  rw [skipGroups]

/-- The innermost group ends. -/
lemma skipGroups_stop {stop : Bytes} (h : IsKey stop innermost .groupEnd) (rest : Bytes) :
    skipGroups (innermost :: outer) (stop ++ rest) = skipGroups outer rest := by
  have hread := readKey_append h rest
  rw [skipGroups]
  split
  · next heq => rw [hread] at heq; cases heq
  · next heq => rw [hread] at heq; cases heq; rw [if_pos rfl]
  · next heq => rw [hread] at heq; cases heq
  · next hstop _ heq => rw [hread] at heq; cases heq; exact absurd rfl hstop

/-- Another group begins. -/
lemma skipGroups_start {start : Bytes} (h : IsKey start number .groupStart)
    (hne : groups ≠ []) (hdepth : groups.length < maxDepth) (rest : Bytes) :
    skipGroups groups (start ++ rest) = skipGroups (number :: groups) rest := by
  obtain ⟨innermost, outer, rfl⟩ := List.exists_cons_of_ne_nil hne
  have hread := readKey_append h rest
  rw [skipGroups]
  split
  · next heq => rw [hread] at heq; cases heq
  · next heq => rw [hread] at heq; cases heq
  · next heq => rw [hread] at heq; cases heq; rw [if_neg (Nat.not_le_of_lt hdepth)]
  · next hstart heq => rw [hread] at heq; cases heq; exact absurd rfl hstart

/-- A value is stepped over. -/
lemma skipGroups_value {key value : Bytes} (hkey : IsKey key number wireType)
    (hvalue : IsValue wireType value) (hne : groups ≠ []) (hdepth : groups.length < maxDepth)
    (rest : Bytes) : skipGroups groups (key ++ value ++ rest) = skipGroups groups rest := by
  obtain ⟨innermost, outer, rfl⟩ := List.exists_cons_of_ne_nil hne
  have hread := readKey_append hkey (value ++ rest)
  have hskip := skipValue_append hvalue rest
  rw [List.append_assoc, skipGroups]
  split
  · next heq => rw [hread] at heq; cases heq
  · next heq => rw [hread] at heq; cases heq; cases hvalue
  · next heq => rw [hread] at heq; cases heq; cases hvalue
  · next heq =>
    rw [hread] at heq
    cases heq
    rw [if_neg (Nat.not_le_of_lt hdepth)]
    split
    · next heq' => rw [hskip] at heq'; cases heq'
    · next heq' => rw [hskip] at heq'; cases heq'; rfl

/-- Several fields are stepped over, if each of them is. -/
lemma skipGroups_concat {fields : List (Nat × Bytes)}
    (h : ∀ f ∈ fields, ∀ rest, skipGroups groups (f.2 ++ rest) = skipGroups groups rest)
    (rest : Bytes) : skipGroups groups (concat fields ++ rest) = skipGroups groups rest := by
  induction fields with
  | nil => rfl
  | cons f fields ih =>
    rw [List.forall_mem_cons] at h
    rw [concat_cons, List.append_assoc, h.1, ih h.2]

/-- **A field inside of groups is stepped over**, and the same groups are open behind it. -/
lemma IsField.skipGroups {depth : Nat} (h : IsField depth number b) (hne : groups ≠ [])
    (hdepth : depth = groups.length + 1) (rest : Bytes) :
    skipGroups groups (b ++ rest) = skipGroups groups rest := by
  induction h generalizing groups rest with
  | value hle hkey hvalue =>
    have hlt : groups.length < maxDepth := by
      rw [maxDepth]
      omega
    exact skipGroups_value hkey hvalue hne hlt rest
  | @group depth number start stop fields hle hstart hfields hstop ih =>
    have hinner : ∀ f ∈ fields, ∀ rest, Wire.skipGroups (number :: groups) (f.2 ++ rest) =
        Wire.skipGroups (number :: groups) rest := by
      intro f hf rest
      refine ih f hf (List.cons_ne_nil _ _) ?_ rest
      rw [List.length_cons, hdepth]
    have hlt : groups.length < maxDepth := by
      rw [maxDepth]
      omega
    rw [List.append_assoc, List.append_assoc, skipGroups_start hstart hne hlt,
      skipGroups_concat hinner, skipGroups_stop hstop]

/-- What is needed to end the groups with the given numbers, the innermost first: some fields of the
innermost group and its end key, and then what the others need. -/
inductive IsTail : List Nat → Bytes → Prop
  | nil : IsTail [] []
  | cons {innermost : Nat} {outer : List Nat} {fields : List (Nat × Bytes)} {stop rest : Bytes}
    (hfields : ∀ f ∈ fields, IsField (outer.length + 2) f.1 f.2)
    (hstop : IsKey stop innermost .groupEnd) (hrest : IsTail outer rest) :
    IsTail (innermost :: outer) (concat fields ++ stop ++ rest)

/-- One more field of the innermost group. -/
lemma IsTail.field {tail : Bytes} (h : IsTail (innermost :: outer) tail)
    (hf : IsField (outer.length + 2) number b) : IsTail (innermost :: outer) (b ++ tail) := by
  cases h with
  | @cons _ _ fields stop rest hfields hstop hrest =>
    have hall : ∀ f ∈ (number, b) :: fields, IsField (outer.length + 2) f.1 f.2 :=
      List.forall_mem_cons.2 ⟨hf, hfields⟩
    have htail := IsTail.cons hall hstop hrest
    rwa [concat_cons, List.append_assoc b, List.append_assoc b] at htail

/-- **Reading on inside of groups accepts what they need, and nothing else.** -/
lemma skipGroups_eq_ok_iff :
    skipGroups groups b = .ok rest ↔ ∃ p, b = p ++ rest ∧ IsTail groups p := by
  constructor
  · intro h
    fun_induction Wire.skipGroups groups b with
    | case1 b => cases h; exact ⟨[], rfl, .nil⟩
    | case2 => cases h
    | case3 b outer innermost rest' hread _ ih =>
      obtain ⟨stop, rfl, hstop⟩ := readKey_eq_ok_iff.1 hread
      obtain ⟨p, rfl, hp⟩ := ih h
      have htail : IsTail (innermost :: outer) (concat [] ++ stop ++ p) :=
        .cons (by simp) hstop hp
      exact ⟨stop ++ p, by rw [List.append_assoc], htail⟩
    | case4 => cases h
    | case5 => cases h
    | case6 b innermost outer number rest' hread hdepth _ ih =>
      -- the tail has a layer for the new group, which is a field of the one around it
      obtain ⟨start, rfl, hstart⟩ := readKey_eq_ok_iff.1 hread
      obtain ⟨p, rfl, hp⟩ := ih h
      cases hp with
      | @cons _ _ fields stop tail hfields hstop htail =>
        have hle : outer.length + 2 ≤ 100 := by
          rw [List.length_cons, maxDepth] at hdepth
          omega
        have hgroup := IsField.group hle hstart hfields hstop
        refine ⟨_, ?_, htail.field hgroup⟩
        simp only [List.append_assoc]
    | case7 => cases h
    | case8 => cases h
    | case9 b innermost outer number wireType rest' _ hstart hread hdepth rest'' hskip _ _ ih =>
      obtain ⟨key, rfl, hkey⟩ := readKey_eq_ok_iff.1 hread
      obtain ⟨value, rfl, hvalue⟩ := (skipValue_eq_ok_iff hstart).1 hskip
      obtain ⟨p, rfl, hp⟩ := ih h
      have hle : outer.length + 2 ≤ 100 := by
        rw [List.length_cons, maxDepth] at hdepth
        omega
      refine ⟨_, ?_, hp.field (.value hle hkey hvalue)⟩
      simp only [List.append_assoc]
  · rintro ⟨p, rfl, hp⟩
    induction hp with
    | nil => exact skipGroups_nil rest
    | @cons innermost outer fields stop tail hfields hstop htail ih =>
      have hinner : ∀ f ∈ fields, ∀ rest, Wire.skipGroups (innermost :: outer) (f.2 ++ rest) =
          Wire.skipGroups (innermost :: outer) rest :=
        fun f hf rest => (hfields f hf).skipGroups (List.cons_ne_nil _ _) rfl rest
      rw [List.append_assoc, List.append_assoc, skipGroups_concat hinner, skipGroups_stop hstop, ih]

/-- **Reading a key and stepping over what follows accepts a field, and nothing else.** -/
lemma readKey_skipField_iff :
    (∃ wireType b', readKey b = .ok (⟨number, wireType⟩, b') ∧
        skipField ⟨number, wireType⟩ b' = .ok rest) ↔
      ∃ p, b = p ++ rest ∧ IsField 1 number p := by
  have hdepth : 1 ≤ 100 := by decide
  constructor
  · rintro ⟨wireType, b', hread, hskip⟩
    obtain ⟨key, rfl, hkey⟩ := readKey_eq_ok_iff.1 hread
    unfold skipField at hskip
    split at hskip
    · -- a group at the top is one layer
      next hstart =>
      simp only at hstart
      subst hstart
      obtain ⟨p, rfl, hp⟩ := skipGroups_eq_ok_iff.1 hskip
      cases hp with
      | cons hfields hstop htail =>
        cases htail
        refine ⟨_, ?_, .group hdepth hkey hfields hstop⟩
        simp only [List.append_assoc, List.append_nil]
    · next hne =>
      obtain ⟨value, rfl, hvalue⟩ := (skipValue_eq_ok_iff hne).1 hskip
      refine ⟨_, ?_, .value hdepth hkey hvalue⟩
      rw [List.append_assoc]
  · rintro ⟨p, rfl, hp⟩
    cases hp with
    | @value _ _ wireType key value _ hkey hvalue =>
      refine ⟨wireType, value ++ rest, ?_, ?_⟩
      · rw [List.append_assoc]
        exact readKey_append hkey _
      · have hskip := skipValue_append hvalue rest
        cases wireType with
        | groupStart => cases hvalue
        | _ => exact hskip
    | @group _ _ start stop fields _ hstart hfields hstop =>
      refine ⟨.groupStart, concat fields ++ stop ++ [] ++ rest, ?_, ?_⟩
      · simp only [List.append_assoc, List.nil_append]
        exact readKey_append hstart _
      · exact skipGroups_eq_ok_iff.2 ⟨_, rfl, .cons hfields hstop .nil⟩

end MessageRelay.Wire
