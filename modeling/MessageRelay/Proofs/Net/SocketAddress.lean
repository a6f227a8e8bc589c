import MessageRelay.Net.SocketAddress
import MessageRelay.Proofs.Text.Cutting
import MessageRelay.Proofs.Text.Digits
import Mathlib.Data.List.TakeWhile

/-!
# Addresses are read as they are written

There is one notation for an IPv4 address and a port, and three for an IPv6 address: all eight groups, two colons in
place of the longest run of zero groups, and two groups as an IPv4 address.  The reader takes the longest start of a text
that is a number, an address or a list of groups, so each part has to be followed by something that does not go on with
it (`Stops`, `EndsGroups`, `EndsAddress`).  Under this condition each is read as it is written, and so are socket
addresses (`SocketAddress.parse?_display`).
-/

namespace MessageRelay

namespace SocketAddress

variable {base : ℕ} {rest : List Char}

/-! ## Numbers -/

/-- A text goes on with something else than a digit. -/
def Stops (base : ℕ) (rest : List Char) : Prop :=
  ∀ c ∈ rest.head?, digit? base c = none

lemma digit?_digitChar {d : ℕ} (hsmall : base ≤ 16) (hd : d < base) : digit? base d.digitChar = some d := by
  have hvalue : digit? 16 d.digitChar = some d := by
    have : d < 16 := Nat.lt_of_lt_of_le hd hsmall
    clear hd hsmall
    decide +revert
  unfold digit? at hvalue ⊢
  rw [Option.filter_eq_some_iff] at hvalue ⊢
  exact ⟨hvalue.1, by simpa using hd⟩

lemma takeDigits_of_stops (h : Stops base rest) (count value : ℕ) :
    takeDigits base count value rest = (count, value, rest) := by
  cases rest with
  | nil => rfl
  | cons c rest => simp [takeDigits, h c rfl]

/-- The digits of a number are read as the number. -/
lemma takeDigits_toDigits (hb : 1 < base) (hsmall : base ≤ 16) (n : ℕ) (rest : List Char) :
    takeDigits base 0 0 (Nat.toDigits base n ++ rest) = takeDigits base (Nat.toDigits base n).length n rest := by
  revert rest
  refine Text.toDigits_induction (P := fun n ds => ∀ rest, takeDigits base 0 0 (ds ++ rest) =
    takeDigits base ds.length n rest) hb (fun d hd rest => ?_) (fun n d _ hd ih rest => ?_) n
  · simp [takeDigits, digit?_digitChar hsmall hd]
  · rw [List.append_assoc, ih]
    simp [takeDigits, digit?_digitChar hsmall hd]

/-- A number is taken whole if there is room for all of its digits and it is below the bound. -/
lemma takeNumber_toDigits (hb : 1 < base) (hsmall : base ≤ 16) {n bound : ℕ} {width : Option ℕ}
    (hwidth : ∀ w ∈ width, (Nat.toDigits base n).length ≤ w) (zeros : Bool) (hn : n < bound) (hrest : Stops base rest) :
    takeNumber base width zeros bound (Nat.toDigits base n ++ rest) = some (n, rest) := by
  have hpos : 0 < (Nat.toDigits base n).length := Nat.length_toDigits_pos
  have hfits : (width.map fun w => decide ((Nat.toDigits base n).length ≤ w)).getD true = true := by
    cases width with
    | none => rfl
    | some w => simpa using hwidth w rfl
  have hzero : (decide (1 < (Nat.toDigits base n).length) && (Nat.toDigits base n ++ rest).head? == some '0') = false := by
    obtain ⟨c, cs, hcs⟩ := List.exists_cons_of_ne_nil (Nat.toDigits_ne_nil (n := n) (b := base))
    rw [hcs, Bool.and_eq_false_iff, or_iff_not_imp_right]
    intro hhead
    have hn := Text.eq_zero_of_head?_toDigits hb hsmall (n := n) (by simpa [hcs] using hhead)
    subst hn
    rw [Nat.toDigits_of_lt_base (Nat.zero_lt_of_lt hb)] at hcs
    simp [← hcs]
  unfold takeNumber
  rw [takeDigits_toDigits hb hsmall, takeDigits_of_stops hrest]
  simp only [hfits, hzero]
  simp [hn.not_ge]

lemma takeNumber_of_stops {width : Option ℕ} {zeros : Bool} {bound : ℕ} (h : Stops base rest) :
    takeNumber base width zeros bound rest = none := by
  simp [takeNumber, takeDigits_of_stops h]

/-- What a number leaves is what stands behind the digits. -/
lemma takeDigits_rest (base count value : ℕ) (cs : List Char) :
    (takeDigits base count value cs).2.2 = cs.dropWhile fun c => (digit? base c).isSome := by
  induction cs generalizing count value with
  | nil => rfl
  | cons c cs ih =>
    rw [takeDigits]
    cases hdigit : digit? base c with
    | none => simp [hdigit]
    | some d => simpa [hdigit] using ih (count + 1) (value * base + d)

lemma takeNumber_rest {width : Option ℕ} {zeros : Bool} {bound n : ℕ} {cs : List Char}
    (h : takeNumber base width zeros bound cs = some (n, rest)) :
    rest = cs.dropWhile fun c => (digit? base c).isSome := by
  unfold takeNumber at h
  rw [← takeDigits_rest base 0 0]
  simp only at h
  split at h
  · cases h
  · simpa using (congrArg Prod.snd (Option.some.inj h)).symm

@[simp]
lemma takeChar_self (c : Char) (cs : List Char) : takeChar c (c :: cs) = some cs := by
  simp [takeChar]

/-! ## IPv4 addresses -/

lemma toList_ipv4 (ip : Ipv4) : ip.display.toList = Nat.toDigits 10 ip.a.toNat ++ '.' ::
    (Nat.toDigits 10 ip.b.toNat ++ '.' :: (Nat.toDigits 10 ip.c.toNat ++ '.' :: Nat.toDigits 10 ip.d.toNat)) := by
  simp [Ipv4.display, toString, Nat.toList_repr]

lemma stops_cons {c : Char} (h : digit? base c = none) (cs : List Char) : Stops base (c :: cs) := by
  simpa [Stops] using h

lemma takeByte_toDigits (x : UInt8) (hrest : Stops 10 rest) :
    takeByte (Nat.toDigits 10 x.toNat ++ rest) = some (x, rest) := by
  have hlength : (Nat.toDigits 10 x.toNat).length ≤ 3 :=
    (Nat.length_toDigits_le_iff (by decide) (by decide)).2 (Nat.lt_trans x.toNat_lt (by decide))
  rw [takeByte, takeNumber_toDigits (by decide) (by decide) (by simpa using hlength) false x.toNat_lt hrest]
  simp

lemma takeIpv4_display (ip : Ipv4) (hrest : Stops 10 rest) : takeIpv4 (ip.display.toList ++ rest) = some (ip, rest) := by
  have hdot (cs : List Char) : Stops 10 ('.' :: cs) := stops_cons rfl cs
  rw [toList_ipv4]
  simp only [List.append_assoc, List.cons_append]
  simp only [takeIpv4, takeByte_toDigits _ (hdot _), takeByte_toDigits _ hrest, takeChar_self, Option.bind_eq_bind,
    Option.bind_some, Option.pure_def]

/-- An IPv4 address has a dot behind its first digits. -/
lemma takeIpv4_eq_none {cs : List Char} (h : (cs.dropWhile fun c => (digit? 10 c).isSome).head? ≠ some '.') :
    takeIpv4 cs = none := by
  unfold takeIpv4
  cases hbyte : takeByte cs with
  | none => rfl
  | some r =>
    obtain ⟨x, after⟩ := r
    unfold takeByte at hbyte
    obtain ⟨⟨n, after'⟩, hnumber, hr⟩ := Option.map_eq_some_iff.1 hbyte
    obtain rfl : after' = after := congrArg Prod.snd hr
    rw [← takeNumber_rest hnumber] at h
    have hdot : takeChar '.' after' = none := by
      cases after' with
      | nil => rfl
      | cons c cs => simpa [takeChar] using h
    simp [hdot]

lemma takeIpv4_of_stops (h : Stops 10 rest) (hdot : rest.head? ≠ some '.') : takeIpv4 rest = none := by
  refine takeIpv4_eq_none ?_
  cases rest with
  | nil => simp
  | cons c cs => simpa [h c rfl] using hdot

/-! ## Groups -/

/-- Groups in hexadecimal digits; a colon stands in front of each, but for the first of all. -/
def groupsText (first : Bool) (gs : List UInt16) : List Char :=
  Text.separated ':' first (gs.map fun g => Nat.toDigits 16 g.toNat)

lemma toList_joinGroups (gs : List UInt16) : (Ipv6.joinGroups gs).toList = groupsText true gs := by
  have hgroup : (String.toList ∘ fun g : UInt16 => String.ofList (Nat.toDigits 16 g.toNat)) =
      fun g => Nat.toDigits 16 g.toNat := by
    funext g
    simp
  rw [Ipv6.joinGroups, String.toList_intercalate, List.map_map, hgroup]
  exact Text.intercalate_eq_separated ':' _

/-- No group follows: neither a digit or a dot, nor a colon with a digit behind it. -/
structure EndsGroups (rest : List Char) : Prop where
  stops : Stops 16 rest
  no_dot : rest.head? ≠ some '.'
  no_group : ∀ cs, rest = ':' :: cs → Stops 16 cs ∧ cs.head? ≠ some '.'

lemma Stops.decimal (h : Stops 16 rest) : Stops 10 rest := by
  intro c hc
  have h16 := h c hc
  unfold digit? at h16 ⊢
  rw [Option.filter_eq_none_iff] at h16 ⊢
  intro d hd hlt
  exact h16 d hd (by simp at hlt ⊢; omega)

/-- Where no group follows none is taken. -/
lemma takeGroups_of_ends (h : EndsGroups rest) (first : Bool) (room : ℕ) :
    takeGroups first room rest = ([], false, rest) := by
  have hbehind : ∀ cs, takeSeparator first rest = some cs → Stops 16 cs ∧ cs.head? ≠ some '.' := by
    intro cs hcs
    cases first with
    | true =>
      obtain rfl : rest = cs := by simpa [takeSeparator] using hcs
      exact ⟨h.stops, h.no_dot⟩
    | false =>
      cases rest with
      | nil => cases hcs
      | cons c tail =>
        simp only [takeSeparator, takeChar, Bool.false_eq_true, if_false, Option.ite_none_right_eq_some] at hcs
        obtain ⟨rfl, hcs⟩ := hcs
        cases hcs
        exact h.no_group cs rfl
  cases room with
  | zero => rfl
  | succ room =>
    rw [takeGroups]
    cases hseparator : takeSeparator first rest with
    | none => simp
    | some cs =>
      obtain ⟨hstops, hdot⟩ := hbehind cs hseparator
      simp [takeIpv4_of_stops hstops.decimal hdot, takeNumber_of_stops hstops]

lemma dot_not_mem_toDigits (n : ℕ) : '.' ∉ Nat.toDigits 16 n := by
  refine Text.toDigits_induction (P := fun _ ds => '.' ∉ ds) (by decide) (fun d _ => ?_) (fun n d _ _ ih => ?_) n
  · simp
  · simp [ih]

/-- A character that occurs nowhere among some is not what is found behind some of them. -/
lemma head?_dropWhile_append {p : Char → Bool} {c : Char} {ds : List Char} (hds : c ∉ ds)
    (hrest : (rest.dropWhile p).head? ≠ some c) : ((ds ++ rest).dropWhile p).head? ≠ some c := by
  induction ds with
  | nil => exact hrest
  | cons d ds ih =>
    rw [List.mem_cons, not_or] at hds
    rw [List.cons_append, List.dropWhile_cons]
    split
    · exact ih hds.2
    · simpa [eq_comm] using hds.1

/-- A group is not the start of an IPv4 address. -/
lemma takeIpv4_group (g : UInt16) (hstops : Stops 16 rest) (hdot : rest.head? ≠ some '.') :
    takeIpv4 (Nat.toDigits 16 g.toNat ++ rest) = none := by
  refine takeIpv4_eq_none (head?_dropWhile_append (dot_not_mem_toDigits _) ?_)
  cases rest with
  | nil => simp
  | cons c cs => simpa [hstops.decimal c rfl] using hdot

lemma takeNumber_group (g : UInt16) (hstops : Stops 16 rest) :
    takeNumber 16 (some 4) true 65536 (Nat.toDigits 16 g.toNat ++ rest) = some (g.toNat, rest) := by
  have hlength : (Nat.toDigits 16 g.toNat).length ≤ 4 :=
    (Nat.length_toDigits_le_iff (by decide) (by decide)).2 g.toNat_lt
  exact takeNumber_toDigits (by decide) (by decide) (by simpa using hlength) true g.toNat_lt hstops

/-- **Groups are taken as they are written**, up to the place where they end. -/
lemma takeGroups_groupsText {gs : List UInt16} {room : ℕ} (hroom : gs.length ≤ room) (hrest : EndsGroups rest)
    (first : Bool) : takeGroups first room (groupsText first gs ++ rest) = (gs, false, rest) := by
  induction gs generalizing first room with
  | nil => exact takeGroups_of_ends hrest first room
  | cons g gs ih =>
    obtain ⟨room, rfl⟩ := Nat.exists_eq_add_one_of_ne_zero (Nat.ne_zero_of_lt hroom)
    have hafter : Stops 16 (groupsText false gs ++ rest) ∧ (groupsText false gs ++ rest).head? ≠ some '.' := by
      cases gs with
      | nil => exact ⟨hrest.stops, hrest.no_dot⟩
      | cons g' gs => simp [groupsText, Stops, digit?]
    have hseparator : takeSeparator first (groupsText first (g :: gs) ++ rest) =
        some (Nat.toDigits 16 g.toNat ++ (groupsText false gs ++ rest)) := by
      cases first <;> simp [takeSeparator, takeChar, groupsText]
    rw [takeGroups, hseparator]
    simp [takeIpv4_group g hafter.1 hafter.2, takeNumber_group g hafter.1, ih (Nat.le_of_succ_le_succ hroom)]

/-! ## IPv6 addresses -/

lemma ofGroups?_toList (ip : Ipv6) : ofGroups? ip.groups.toList = some ip := by
  obtain ⟨⟨groups, hlength⟩⟩ := ip
  simp [ofGroups?, hlength]

/-- The longest run of zero groups stands where it is said to. -/
lemma exists_longestRun (start : ℕ) (gs : List UInt16) : ∃ front back,
    gs = front ++ (List.replicate (Ipv6.longestRun start gs).2 0 ++ back) ∧
      (Ipv6.longestRun start gs).1 = start + front.length := by
  induction gs generalizing start with
  | nil => exact ⟨[], [], rfl, rfl⟩
  | cons g gs ih =>
    rw [Ipv6.longestRun]
    split
    · obtain ⟨front, back, hgs, hstart⟩ := ih (start + 1)
      refine ⟨g :: front, back, congrArg (g :: ·) hgs, ?_⟩
      rw [hstart, List.length_cons]
      omega
    · refine ⟨[], (g :: gs).dropWhile (· == 0), ?_, rfl⟩
      have hzeros : (g :: gs).takeWhile (· == 0) = List.replicate (Ipv6.zeroRun (g :: gs)) 0 := by
        refine List.eq_replicate_iff.2 ⟨rfl, fun z hz => ?_⟩
        simpa using List.mem_takeWhile_imp hz
      rw [← hzeros]
      exact List.takeWhile_append_dropWhile.symm

/-- Groups are those before the longest run of zero groups, this run, and those behind it. -/
lemma eq_append_longestRun (gs : List UInt16) : gs = gs.take (Ipv6.longestRun 0 gs).1 ++
    (List.replicate (Ipv6.longestRun 0 gs).2 0 ++ gs.drop ((Ipv6.longestRun 0 gs).1 + (Ipv6.longestRun 0 gs).2)) := by
  obtain ⟨front, back, hgs, hstart⟩ := exists_longestRun 0 gs
  generalize Ipv6.longestRun 0 gs = run at hgs hstart ⊢
  simp [hgs, hstart]

/-- What stands behind an IPv6 address: it goes on with neither a digit, nor a dot, nor a colon. -/
structure EndsAddress (rest : List Char) : Prop where
  stops : Stops 16 rest
  no_dot : rest.head? ≠ some '.'
  no_colon : rest.head? ≠ some ':'

lemma EndsAddress.endsGroups (h : EndsAddress rest) : EndsGroups rest where
  stops := h.stops
  no_dot := h.no_dot
  no_group _ hcs := absurd (congrArg List.head? hcs) h.no_colon

lemma endsGroups_colons (cs : List Char) : EndsGroups (':' :: ':' :: cs) where
  stops := stops_cons rfl _
  no_dot := by simp
  no_group cs' hcs := by
    obtain rfl : ':' :: cs = cs' := List.tail_eq_of_cons_eq hcs
    exact ⟨stops_cons rfl cs, by simp⟩

/-- Eight groups, one after the other. -/
lemma takeIpv6_groups {ip : Ipv6} (hrest : EndsAddress rest) :
    takeIpv6 (groupsText true ip.groups.toList ++ rest) = some (ip, rest) := by
  have hlength : ip.groups.toList.length = 8 := by simp
  unfold takeIpv6
  rw [takeGroups_groupsText hlength.le hrest.endsGroups]
  simp [hlength, ofGroups?_toList]

/-- Groups, two colons in place of at least two zero groups, and groups. -/
lemma takeIpv6_colons {ip : Ipv6} {front back : List UInt16} {zeros : ℕ} (hzeros : 1 < zeros)
    (hgroups : ip.groups.toList = front ++ (List.replicate zeros 0 ++ back)) (hrest : EndsAddress rest) :
    takeIpv6 (groupsText true front ++ (':' :: ':' :: (groupsText true back ++ rest))) = some (ip, rest) := by
  have hlength : front.length + (zeros + back.length) = 8 := by
    have h := congrArg List.length hgroups
    simpa using h.symm
  have hgap : 8 - front.length - back.length = zeros := by omega
  have hgroups' : ofGroups? (front ++ (List.replicate zeros 0 ++ back)) = some ip := by
    rw [← hgroups, ofGroups?_toList]
  have hfront : front.length ≠ 8 := by omega
  have hback : takeGroups true (7 - front.length) (groupsText true back ++ rest) = (back, false, rest) :=
    takeGroups_groupsText (by omega) hrest.endsGroups true
  unfold takeIpv6
  rw [takeGroups_groupsText (by omega) (endsGroups_colons _)]
  simp [hfront, hback, hgap, hgroups']

/-- An address that stands for an IPv4 address has five zero groups, one of ones, and two that are those of the IPv4
address. -/
lemma toList_of_mapped? {ip : Ipv6} {v4 : Ipv4} (h : ip.mapped? = some v4) : ip.groups.toList =
    [0, 0, 0, 0, 0, 0xFFFF, v4.a.toUInt16 * 256 + v4.b.toUInt16, v4.c.toUInt16 * 256 + v4.d.toUInt16] := by
  have hhalves (x : UInt16) : (x >>> 8).toUInt8.toUInt16 * 256 + x.toUInt8.toUInt16 = x := by
    have hx := x.toNat_lt
    rw [← UInt16.toNat_inj]
    simp [UInt16.toNat_add, UInt16.toNat_mul, UInt16.toNat_shiftRight, Nat.shiftRight_eq_div_pow]
    omega
  unfold Ipv6.mapped? at h
  split at h
  · next x y hgroups =>
    cases h
    simp only [hhalves, hgroups]
  · cases h

/-- A group with an IPv4 address behind it, which stands for two groups. -/
lemma takeGroups_embedded (g : UInt16) (v4 : Ipv4) (room : ℕ) (hrest : Stops 10 rest) :
    takeGroups true (room + 3) (Nat.toDigits 16 g.toNat ++ (':' :: (v4.display.toList ++ rest))) =
      ([g, v4.a.toUInt16 * 256 + v4.b.toUInt16, v4.c.toUInt16 * 256 + v4.d.toUInt16], true, rest) := by
  have hcolon : Stops 16 (':' :: (v4.display.toList ++ rest)) := stops_cons rfl _
  have hlast : takeGroups false (room + 2) (':' :: (v4.display.toList ++ rest)) =
      ([v4.a.toUInt16 * 256 + v4.b.toUInt16, v4.c.toUInt16 * 256 + v4.d.toUInt16], true, rest) := by
    simp [takeGroups, takeSeparator, takeIpv4_display v4 hrest]
  rw [takeGroups]
  simp [takeSeparator, takeIpv4_group g hcolon (by simp), takeNumber_group g hcolon, hlast]

/-- An IPv4 address in place of the last two groups. -/
lemma takeIpv6_mapped {ip : Ipv6} {v4 : Ipv4} (h : ip.mapped? = some v4) (hrest : EndsAddress rest) :
    takeIpv6 ("::ffff:".toList ++ (v4.display.toList ++ rest)) = some (ip, rest) := by
  have hip : ofGroups? ip.groups.toList = some ip := ofGroups?_toList ip
  rw [toList_of_mapped? h] at hip
  have hfront : "::ffff:".toList = ':' :: ':' :: (Nat.toDigits 16 (0xFFFF : UInt16).toNat ++ [':']) := by decide
  have htext : "::ffff:".toList ++ (v4.display.toList ++ rest) = groupsText true [] ++ (':' :: ':' ::
      (Nat.toDigits 16 (0xFFFF : UInt16).toNat ++ (':' :: (v4.display.toList ++ rest)))) := by
    rw [hfront]
    simp only [List.cons_append, List.append_assoc, List.nil_append, groupsText, List.map_nil, Text.separated_nil]
  have hback := takeGroups_embedded 0xFFFF v4 4 hrest.stops.decimal
  unfold takeIpv6
  rw [htext, takeGroups_groupsText (by simp) (endsGroups_colons _)]
  simp only [takeChar_self, Option.bind_eq_bind, Option.bind_some, List.length_nil, Nat.sub_zero, hback]
  simp [hip]

/-- **An IPv6 address is read as it is written**, in whichever of the three ways. -/
lemma takeIpv6_display (ip : Ipv6) (hrest : EndsAddress rest) :
    takeIpv6 (ip.display.toList ++ rest) = some (ip, rest) := by
  unfold Ipv6.display
  split
  · next v4 hmapped =>
    rw [String.toList_append, List.append_assoc]
    exact takeIpv6_mapped hmapped hrest
  · dsimp only
    split
    · next hzeros =>
      have hcolons : "::".toList = [':', ':'] := rfl
      simp only [String.toList_append, toList_joinGroups, hcolons, List.append_assoc, List.cons_append, List.nil_append]
      exact takeIpv6_colons hzeros (eq_append_longestRun ip.groups.toList) hrest
    · rw [toList_joinGroups]
      exact takeIpv6_groups hrest

/-! ## Addresses with ports -/

lemma takePort_toDigits (port : UInt16) : takePort (':' :: Nat.toDigits 10 port.toNat) = some (port, []) := by
  have hnumber : takeNumber 10 none true 65536 (Nat.toDigits 10 port.toNat ++ []) = some (port.toNat, []) :=
    takeNumber_toDigits (by decide) (by decide) (by simp) true port.toNat_lt (by simp [Stops])
  rw [List.append_nil] at hnumber
  simp [takePort, hnumber]

lemma takeV4_display (ip : Ipv4) (port : UInt16) :
    takeV4 (SocketAddress.v4 ip port).display.toList = some (.v4 ip port, []) := by
  have htext : (SocketAddress.v4 ip port).display.toList =
      ip.display.toList ++ (':' :: Nat.toDigits 10 port.toNat) := by
    simp [display, toString, Nat.toList_repr]
  have hcolon : Stops 10 (':' :: Nat.toDigits 10 port.toNat) := stops_cons rfl _
  rw [htext]
  simp [takeV4, takeIpv4_display ip hcolon, takePort_toDigits]

lemma toList_v6 (ip : Ipv6) (scope : UInt32) (port : UInt16) : (SocketAddress.v6 ip scope port).display.toList =
    '[' :: (ip.display.toList ++ ((if scope = 0 then [] else '%' :: Nat.toDigits 10 scope.toNat) ++
      (']' :: ':' :: Nat.toDigits 10 port.toNat))) := by
  by_cases hscope : scope = 0 <;> simp [display, hscope, toString, Nat.toList_repr]

lemma takeV6_display (ip : Ipv6) (scope : UInt32) (port : UInt16) :
    takeV6 (SocketAddress.v6 ip scope port).display.toList = some (.v6 ip scope port, []) := by
  have hends (c : Char) (hc : c = ']' ∨ c = '%') (cs : List Char) : EndsAddress (c :: cs) := by
    rcases hc with rfl | rfl <;> exact ⟨stops_cons rfl cs, by simp, by simp⟩
  rw [toList_v6]
  by_cases hscope : scope = 0
  · have hip := takeIpv6_display ip (hends ']' (.inl rfl) (':' :: Nat.toDigits 10 port.toNat))
    simp [takeV6, hip, takeScope, takeChar, takePort_toDigits, hscope]
  · have hip := takeIpv6_display ip
      (hends '%' (.inr rfl) (Nat.toDigits 10 scope.toNat ++ (']' :: ':' :: Nat.toDigits 10 port.toNat)))
    have hnumber : takeNumber 10 none true UInt32.size
        (Nat.toDigits 10 scope.toNat ++ (']' :: ':' :: Nat.toDigits 10 port.toNat)) =
          some (scope.toNat, ']' :: ':' :: Nat.toDigits 10 port.toNat) :=
      takeNumber_toDigits (by decide) (by decide) (by simp) true scope.toNat_lt (stops_cons rfl _)
    simp [takeV6, hip, takeScope, hnumber, takePort_toDigits, hscope]

/-- No IPv4 address begins with a bracket. -/
lemma takeV4_v6 (ip : Ipv6) (scope : UInt32) (port : UInt16) :
    takeV4 (SocketAddress.v6 ip scope port).display.toList = none := by
  rw [toList_v6]
  generalize ip.display.toList ++ _ = cs
  have hip : takeIpv4 ('[' :: cs) = none := takeIpv4_of_stops (stops_cons rfl cs) (by simp)
  simp [takeV4, hip]

/-- **Addresses are read as they are written.** -/
lemma parse?_display (a : SocketAddress) : parse? a.display = some a := by
  -- opened without its equation, which takes long to derive
  delta parse?
  cases a with
  | v4 ip port => rw [takeV4_display]; rfl
  | v6 ip scope port => rw [takeV4_v6, takeV6_display]; rfl

end SocketAddress

end MessageRelay
