import SocketRelay.Net.Endpoint
import SocketRelay.Proofs.Text.Digits

/-!
# The texts of addresses read back

Whatever is written for an address reads back as that address, with the rest of
the text left over (`IPv4.read_chars`, `IPv6.read_chars`). The rest must not go
on as an address does.
-/

namespace SocketRelay.Net

open Text

/-! ## IPv4 -/

namespace IPv4

theorem read_byteChars (x : UInt8) {rest : List Char} (stop : NoDigit 10 rest) :
    byteFormat.read (byteChars x ++ rest) = some (x.toNat, rest) := by
  have lt := x.toNat_lt
  refine NumberFormat.read_toDigits (f := byteFormat) (by decide) (by decide) ?_ ?_ stop
  · exact Nat.le_of_lt_succ lt
  · intro m h
    cases h
    exact (Nat.length_toDigits_le_iff (by decide) (by decide)).mpr
      (Nat.lt_of_lt_of_le lt (by decide))

theorem noDigit_dot (rest : List Char) : NoDigit 10 ('.' :: rest) := by
  intro c h
  cases h
  decide

theorem read_chars (ip : IPv4) {rest : List Char} (stop : NoDigit 10 rest) :
    IPv4.read (ip.chars ++ rest) = some (ip, rest) := by
  simp only [IPv4.read, chars, List.append_assoc, List.cons_append,
    read_byteChars _ (noDigit_dot _), read_byteChars _ stop, readChar, if_true,
    Option.bind_eq_bind, Option.bind_some, Option.pure_def, Nat.toUInt8_eq, UInt8.ofNat_toNat]

/-- An address goes on with a dot after its first digits. -/
theorem read_eq_none {cs : List Char} (h : (cs.dropWhile (isDigitIn 10)).head? ≠ some '.') :
    IPv4.read cs = none := by
  cases first : byteFormat.read cs with
  | none => simp only [IPv4.read, first, Option.bind_eq_bind, Option.bind_none]
  | some p =>
    obtain ⟨n, rest⟩ := p
    have left : rest = cs.dropWhile (isDigitIn 10) := NumberFormat.rest_of_read first
    have noDot : readChar '.' rest = none := by
      cases dot : readChar '.' rest with
      | none => rfl
      | some r =>
        rw [readChar_eq_some.mp dot] at left
        exact absurd (by rw [← left]; rfl) h
    simp only [IPv4.read, first, noDot, Option.bind_eq_bind, Option.bind_some, Option.bind_none]

end IPv4

/-! ## IPv6 -/

namespace IPv6

/-- What may follow an address: nothing that an address could go on with. -/
def Stops (rest : List Char) : Prop :=
  ∀ c, rest.head? = some c → isDigitIn 16 c = false ∧ c ≠ '.' ∧ c ≠ ':'

/-- What may follow a group: anything that is not part of it and does not make it a byte. -/
def EndsGroup (rest : List Char) : Prop :=
  ∀ c, rest.head? = some c → isDigitIn 16 c = false ∧ c ≠ '.'

theorem Stops.endsGroup {rest : List Char} (h : Stops rest) : EndsGroup rest :=
  fun c hc => ⟨(h c hc).1, (h c hc).2.1⟩

theorem endsGroup_colon (rest : List Char) : EndsGroup (':' :: rest) := by
  intro c h
  cases h
  decide

theorem EndsGroup.noDigit {rest : List Char} (h : EndsGroup rest) : NoDigit 16 rest :=
  fun c hc => (h c hc).1

theorem isDigitIn_of_decimal {c : Char} (h : isDigitIn 10 c = true) : isDigitIn 16 c = true := by
  obtain ⟨v, hv⟩ := Option.isSome_iff_exists.mp h
  simp only [isDigitIn, digitValue?, Option.bind_eq_some_iff] at hv ⊢
  obtain ⟨w, value, bound⟩ := hv
  have less : w < 16 := by
    split at bound
    · omega
    · cases bound
  rw [value, Option.bind_some, if_pos less, Option.isSome_some]

theorem noDigit_decimal {cs : List Char} (h : NoDigit 16 cs) : NoDigit 10 cs := by
  intro c hc
  have noDigit := h c hc
  cases decimal : isDigitIn 10 c with
  | false => rfl
  | true => rw [isDigitIn_of_decimal decimal] at noDigit; exact noDigit

theorem read_groupChars (g : UInt16) {rest : List Char} (stop : NoDigit 16 rest) :
    groupFormat.read (groupChars g ++ rest) = some (g.toNat, rest) := by
  have lt := g.toNat_lt
  refine NumberFormat.read_toDigits (f := groupFormat) (by decide) (by decide) ?_ ?_ stop
  · exact Nat.le_of_lt_succ lt
  · intro m h
    cases h
    exact (Nat.length_toDigits_le_iff (by decide) (by decide)).mpr
      (Nat.lt_of_lt_of_le lt (by decide))

/-- Hexadecimal digits without a dot after them are not dotted decimal. -/
theorem readV4_eq_none {ds rest : List Char} (digits : ∀ c ∈ ds, isDigitIn 16 c = true)
    (stop : EndsGroup rest) : IPv4.read (ds ++ rest) = none := by
  refine IPv4.read_eq_none ?_
  induction ds with
  | nil =>
    intro dot
    cases rest with
    | nil => cases dot
    | cons c rest =>
      rw [List.nil_append, List.dropWhile_cons, noDigit_decimal stop.noDigit c rfl] at dot
      exact (stop c rfl).2 (Option.some.inj dot)
  | cons c ds ih =>
    rw [List.cons_append, List.dropWhile_cons]
    split
    · exact ih fun c hc => digits c (List.mem_cons_of_mem _ hc)
    · intro dot
      have := digits c List.mem_cons_self
      rw [Option.some.inj dot] at this
      revert this
      decide

theorem readV4_of_endsGroup {cs : List Char} (h : EndsGroup cs) : IPv4.read cs = none :=
  readV4_eq_none (List.forall_mem_nil _) h

theorem readV4_groupChars (g : UInt16) {rest : List Char} (stop : EndsGroup rest) :
    IPv4.read (groupChars g ++ rest) = none :=
  readV4_eq_none (fun _ => isDigitIn_of_mem_toDigits (by decide) (by decide)) stop

theorem readGroup_eq_none {cs : List Char} (h : NoDigit 16 cs) : groupFormat.read cs = none := by
  have none : cs.takeWhile (isDigitIn 16) = [] := by
    cases cs with
    | nil => rfl
    | cons c cs => simp [h c rfl]
  simp [NumberFormat.read, groupFormat, none]

/-- No group is read where none begins. -/
theorem readGroups_none (n : Nat) {cs : List Char} (h : EndsGroup cs) :
    readGroups n true cs = ⟨[], false, cs⟩ := by
  cases n with
  | zero => rfl
  | succ n =>
    simp [readGroups, readV4_of_endsGroup h, readGroup_eq_none h.noDigit]

/-- The list of groups ends where no colon with a group after it follows. -/
theorem readGroups_stop (n : Nat) {cs : List Char}
    (h : ∀ rest, cs = ':' :: rest → EndsGroup rest) :
    readGroups n false cs = ⟨[], false, cs⟩ := by
  cases n with
  | zero => rfl
  | succ n =>
    cases colon : readChar ':' cs with
    | none => simp [readGroups, colon]
    | some r =>
      obtain ⟨⟨⟩, rest⟩ := r
      have ends := h rest (readChar_eq_some.mp colon)
      simp [readGroups, colon, readV4_of_endsGroup ends, readGroup_eq_none ends.noDigit]

def colonChars (gs : List UInt16) : List Char := gs.flatMap fun g => ':' :: groupChars g

theorem groupsChars_cons (g : UInt16) (gs : List UInt16) :
    groupsChars (g :: gs) = groupChars g ++ colonChars gs := by
  induction gs generalizing g with
  | nil => simp [groupsChars, colonChars]
  | cons g' gs ih =>
    have text : groupsChars (g :: g' :: gs) = groupChars g ++ ':' :: groupsChars (g' :: gs) := rfl
    rw [text, ih g']
    simp [colonChars]

theorem endsGroup_colonChars (gs : List UInt16) {rest : List Char} (stop : EndsGroup rest) :
    EndsGroup (colonChars gs ++ rest) := by
  cases gs with
  | nil => exact stop
  | cons g gs => exact endsGroup_colon _

theorem readGroups_colonChars (gs : List UInt16) (n : Nat) {rest : List Char}
    (stop : EndsGroup rest) :
    readGroups (gs.length + n) false (colonChars gs ++ rest) =
      ⟨gs ++ (readGroups n false rest).groups, (readGroups n false rest).dotted,
        (readGroups n false rest).rest⟩ := by
  induction gs with
  | nil => simp [colonChars]
  | cons g gs ih =>
    have ends := endsGroup_colonChars gs stop
    have text : colonChars (g :: gs) ++ rest =
        ':' :: (groupChars g ++ (colonChars gs ++ rest)) := by
      simp [colonChars]
    rw [text, List.length_cons, Nat.add_right_comm]
    simp only [readGroups, readChar, if_true, Option.map_some, Option.bind_some,
      readV4_groupChars g ends, ite_self, read_groupChars g ends.noDigit, ih, Bool.false_eq_true,
      if_false, List.cons_append, Nat.toUInt16_eq, UInt16.ofNat_toNat]

theorem readGroups_groupChars (g : UInt16) (n : Nat) {rest : List Char} (stop : EndsGroup rest) :
    readGroups (n + 1) true (groupChars g ++ rest) =
      ⟨g :: (readGroups n false rest).groups, (readGroups n false rest).dotted,
        (readGroups n false rest).rest⟩ := by
  simp only [readGroups, if_true, Option.bind_some, readV4_groupChars g stop, ite_self,
    read_groupChars g stop.noDigit, Nat.toUInt16_eq, UInt16.ofNat_toNat]

theorem readGroups_groupsChars (gs : List UInt16) (n : Nat) {rest : List Char}
    (stop : EndsGroup rest) (last : readGroups n false rest = ⟨[], false, rest⟩) :
    readGroups (gs.length + n) true (groupsChars gs ++ rest) = ⟨gs, false, rest⟩ := by
  cases gs with
  | nil => exact readGroups_none _ stop
  | cons g gs =>
    rw [groupsChars_cons, List.append_assoc, List.length_cons, Nat.add_right_comm,
      readGroups_groupChars g _ (endsGroup_colonChars gs stop), readGroups_colonChars gs n stop,
      last, List.append_nil]

/-! ## The run of zeros -/

theorem takeWhile_zero (gs : List UInt16) :
    gs.takeWhile (· == 0) = List.replicate (leadingZeros gs) 0 :=
  List.eq_replicate_of_mem fun g h => eq_of_beq (List.all_eq_true.mp List.all_takeWhile g h)

/-- The longest run is a run, if it is one at all. -/
theorem longestRun_spec (gs : List UInt16) :
    (longestRun gs).length ≤ leadingZeros (gs.drop (longestRun gs).start) := by
  -- The best run found so far is one, whichever starts are still to be looked at.
  have step : ∀ (is : List Nat) (best : Run),
      best.length ≤ leadingZeros (gs.drop best.start) →
      (is.foldl (fun best i => if best.length < leadingZeros (gs.drop i) then
          ⟨i, leadingZeros (gs.drop i)⟩ else best) best).length ≤
        leadingZeros (gs.drop (is.foldl (fun best i =>
          if best.length < leadingZeros (gs.drop i) then
            ⟨i, leadingZeros (gs.drop i)⟩ else best) best).start) := by
    intro is
    induction is with
    | nil => exact fun _ h => h
    | cons i is ih =>
      intro best h
      rw [List.foldl_cons]
      apply ih
      split
      · exact Nat.le_refl _
      · exact h
  exact step _ ⟨0, 0⟩ (Nat.zero_le _)

theorem drop_longestRun (gs : List UInt16) :
    gs.drop (longestRun gs).start = List.replicate (longestRun gs).length 0 ++
      gs.drop ((longestRun gs).start + (longestRun gs).length) := by
  have le := longestRun_spec gs
  generalize (longestRun gs).start = start, (longestRun gs).length = length at le ⊢
  have zeros : (gs.drop start).take length = List.replicate length 0 := by
    have split := List.takeWhile_append_dropWhile (p := (· == (0 : UInt16))) (l := gs.drop start)
    rw [takeWhile_zero] at split
    rw [← split, List.take_append_of_le_length (by simpa using le), List.take_replicate,
      Nat.min_eq_left le]
  rw [← zeros, ← List.drop_drop, List.take_append_drop]

/-! ## Whole addresses -/

theorem ofList?_groups (ip : IPv6) : ofList? ip.groups = some ip := by
  rw [ofList?, dif_pos ip.length_groups]

/-- Dotted decimal at the end is read as two groups. -/
theorem readGroups_dotted (n : Nat) (v4 : IPv4) {rest : List Char} (stop : NoDigit 10 rest) :
    readGroups (n + 2) false (':' :: (v4.chars ++ rest)) =
      ⟨[(v4.a.toNat * 256 + v4.b.toNat).toUInt16, (v4.c.toNat * 256 + v4.d.toNat).toUInt16],
        true, rest⟩ := by
  simp [readGroups, readChar, IPv4.read_chars v4 stop]

theorem mapped?_eq_some {ip : IPv6} {v4 : IPv4} (h : ip.mapped? = some v4) :
    ip.groups = [0, 0, 0, 0, 0, 0xffff, (v4.a.toNat * 256 + v4.b.toNat).toUInt16,
      (v4.c.toNat * 256 + v4.d.toNat).toUInt16] := by
  have high {m n : Nat} (hm : m < 65536) (hn : n < 65536) :
      (m * 65536 + n) / 0x1000000 % 256 * 256 + (m * 65536 + n) / 0x10000 % 256 = m := by omega
  have low {m n : Nat} (hn : n < 65536) :
      (m * 65536 + n) / 0x100 % 256 * 256 + (m * 65536 + n) % 256 = n := by omega
  unfold mapped? at h
  split at h
  · next x y groups =>
    cases h
    rw [groups]
    simp only [IPv4.ofNat, Nat.toUInt8_eq, UInt8.toNat_ofNat', Nat.toUInt16_eq]
    rw [high x.toNat_lt y.toNat_lt, low y.toNat_lt, UInt16.ofNat_toNat, UInt16.ofNat_toNat]
  · cases h

theorem read_mapped (ip : IPv6) {v4 : IPv4} (h : ip.mapped? = some v4) {rest : List Char}
    (stop : NoDigit 10 rest) :
    IPv6.read ("::ffff:".toList ++ v4.chars ++ rest) = some (ip, rest) := by
  have text : "::ffff:".toList ++ v4.chars ++ rest =
      ':' :: ':' :: (groupChars 0xffff ++ ':' :: (v4.chars ++ rest)) := by
    have ffff : groupChars 0xffff = "ffff".toList := by decide +kernel
    rw [ffff]
    rfl
  have head := readGroups_none 8 (endsGroup_colon (':' :: (groupChars 0xffff ++ ':' ::
    (v4.chars ++ rest))))
  have tail := readGroups_groupChars 0xffff 6 (endsGroup_colon (v4.chars ++ rest))
  rw [readGroups_dotted 4 v4 stop] at tail
  have whole := ofList?_groups ip
  rw [mapped?_eq_some h] at whole
  simp only [IPv6.read, text, head, readChar, if_true, Option.bind_eq_bind, Option.bind_some,
    List.length_nil, Nat.reduceEqDiff, if_false, Bool.false_eq_true, Nat.sub_zero, tail,
    List.length_cons, Nat.reduceAdd, Nat.reduceSub, List.nil_append, Option.pure_def]
  exact congrArg (Option.bind · fun ip => some (ip, rest)) whole

/-- A run of zeros is read back from its two colons. -/
theorem read_compressed (ip : IPv6) {start length : Nat} (long : 0 < length)
    (zeros : ip.groups.drop start = List.replicate length 0 ++ ip.groups.drop (start + length))
    {rest : List Char} (stop : Stops rest) :
    IPv6.read (groupsChars (ip.groups.take start) ++ "::".toList ++
      groupsChars (ip.groups.drop (start + length)) ++ rest) = some (ip, rest) := by
  have room : start + length ≤ 8 := by
    have := congrArg List.length zeros
    simp only [List.length_drop, List.length_append, List.length_replicate, ip.length_groups]
      at this
    omega
  let after := groupsChars (ip.groups.drop (start + length)) ++ rest
  have head : readGroups 8 true (groupsChars (ip.groups.take start) ++ ':' :: ':' :: after) =
      ⟨ip.groups.take start, false, ':' :: ':' :: after⟩ := by
    have := readGroups_groupsChars (ip.groups.take start) (8 - start)
      (endsGroup_colon (':' :: after))
      (readGroups_stop _ fun _ same => by cases same; exact endsGroup_colon after)
    rwa [List.length_take, ip.length_groups, Nat.min_eq_left (by omega),
      Nat.add_sub_cancel' (by omega)] at this
  -- The reader leaves room for at least one group of zeros.
  have tail : readGroups (7 - start) true after =
      ⟨ip.groups.drop (start + length), false, rest⟩ := by
    have := readGroups_groupsChars (ip.groups.drop (start + length)) (length - 1) stop.endsGroup
      (readGroups_stop _ fun _ same => absurd rfl (stop ':' (by rw [same]; rfl)).2.2)
    rwa [List.length_drop, ip.length_groups,
      show 8 - (start + length) + (length - 1) = 7 - start by omega] at this
  have text : groupsChars (ip.groups.take start) ++ "::".toList ++
      groupsChars (ip.groups.drop (start + length)) ++ rest =
      groupsChars (ip.groups.take start) ++ ':' :: ':' :: after := by
    simp [after]
  have headLength : (ip.groups.take start).length = start := by
    rw [List.length_take, ip.length_groups]; omega
  have tailLength : (ip.groups.drop (start + length)).length = 8 - (start + length) := by
    rw [List.length_drop, ip.length_groups]
  have whole : ip.groups.take start ++ List.replicate (8 - start - (8 - (start + length))) 0 ++
      ip.groups.drop (start + length) = ip.groups := by
    rw [show 8 - start - (8 - (start + length)) = length by omega, List.append_assoc, ← zeros,
      List.take_append_drop]
  simp only [IPv6.read, text, head, headLength, readChar, if_true, Option.bind_eq_bind,
    Option.bind_some, Bool.false_eq_true, if_false, tail, tailLength, whole, ofList?_groups,
    Option.pure_def]
  rw [if_neg (by omega)]

theorem read_full (ip : IPv6) {rest : List Char} (stop : Stops rest) :
    IPv6.read (groupsChars ip.groups ++ rest) = some (ip, rest) := by
  have head := readGroups_groupsChars ip.groups 0 stop.endsGroup rfl
  rw [ip.length_groups] at head
  simp only [IPv6.read, head, ip.length_groups, if_true, ofList?_groups, Option.bind_eq_bind,
    Option.bind_some, Option.pure_def]

theorem read_chars (ip : IPv6) {rest : List Char} (stop : Stops rest) :
    IPv6.read (ip.chars ++ rest) = some (ip, rest) := by
  unfold chars
  split
  · next v4 mapped =>
    exact read_mapped ip mapped (noDigit_decimal stop.endsGroup.noDigit)
  · dsimp only
    split
    · next long => exact read_compressed ip (by omega) (drop_longestRun _) stop
    · exact read_full ip stop

end IPv6

end SocketRelay.Net
