import SocketRelay.Config.Error
import SocketRelay.Proofs.Text.Pieces

/-!
# Lists of rules put together

The items of two lists with a comma between them are the items of the one and then
those of the other (`Rule.items_append`). What is said of longer lists follows from
this equation: such a list gives the routes of both in order or the error that comes
first, and neither blanks around items nor blank items make a difference
(`Rule.items_padded`). Main statement: `Rule.readList_join`.
-/

namespace SocketRelay

open Text

namespace Rule

/-- The items of a list with blanks around them, and with blank items in between. -/
inductive Padded : List String → List String → Prop where
  | nil : Padded [] []
  | item {plain padded : List String} (front item back : String)
      (opened : ∀ c ∈ front.toList, isBlank c = true)
      (closed : ∀ c ∈ back.toList, isBlank c = true) (rest : Padded plain padded) :
      Padded (item :: plain) ((front ++ item ++ back) :: padded)
  | blank {between : String} {plain padded : List String}
      (blank : ∀ c ∈ between.toList, isBlank c = true) (rest : Padded plain padded) :
      Padded plain (between :: padded)

variable {cs front back : List Char}

/-! ## Items -/

theorem items_append (a b : List Char) : items (a ++ ',' :: b) = items a ++ items b := by
  rw [items, items, items, splitAll_append, List.map_append, List.filter_append]

theorem items_of_notMem (absent : ',' ∉ cs) : items cs = [trim cs].filter (· ≠ []) := by
  rw [items, splitAll_of_notMem absent, List.map_singleton]

theorem comma_notMem_of_blank (blank : ∀ c ∈ cs, isBlank c = true) : ',' ∉ cs := fun mem => by
  cases blank ',' mem

theorem items_of_blank (blank : ∀ c ∈ cs, isBlank c = true) : items cs = [] := by
  rw [items_of_notMem (comma_notMem_of_blank blank), trim, dropEnds_eq_nil_iff.mpr blank]
  rfl

/-- Blanks in front go to the first item. -/
theorem items_front (blank : ∀ c ∈ front, isBlank c = true) (cs : List Char) :
    items (front ++ cs) = items cs := by
  have one {cs : List Char} (absent : ',' ∉ cs) : items (front ++ cs) = items cs := by
    rw [items_of_notMem absent, items_of_notMem, trim, List.dropWhile_append_of_pos blank, trim]
    exact fun mem => (List.mem_append.mp mem).elim (comma_notMem_of_blank blank) absent
  cases first : splitFirst ',' cs with
  | none => exact one (splitFirst_eq_none.mp first)
  | some parts =>
    obtain ⟨rfl, absent⟩ := splitFirst_eq_some first
    rw [← List.append_assoc, items_append, items_append, one absent]

/-- Blanks behind go to the last item. -/
theorem items_back (blank : ∀ c ∈ back, isBlank c = true) (cs : List Char) :
    items (cs ++ back) = items cs := by
  have one {cs : List Char} (absent : ',' ∉ cs) : items (cs ++ back) = items cs := by
    rw [items_of_notMem absent, items_of_notMem, trim, dropEnds_append blank, trim]
    exact fun mem => (List.mem_append.mp mem).elim absent (comma_notMem_of_blank blank)
  cases last : splitLast ',' cs with
  | none => exact one (splitLast_eq_none.mp last)
  | some parts =>
    obtain ⟨rfl, absent⟩ := splitLast_eq_some last
    rw [List.append_assoc, List.cons_append, items_append, items_append, one absent]

theorem items_intercalate (pieces : List (List Char)) :
    items ([','].intercalate pieces) = pieces.flatMap items := by
  induction pieces with
  | nil => rfl
  | cons piece pieces ih =>
    cases pieces with
    | nil => rw [List.intercalate_singleton, List.flatMap_singleton]
    | cons next pieces =>
      rw [List.intercalate_cons_cons, List.append_assoc, List.singleton_append, items_append, ih]
      rfl

theorem items_padded {plain padded : List String} (h : Padded plain padded) :
    items (",".intercalate padded).toList = items (",".intercalate plain).toList := by
  have comma : ",".toList = [','] := rfl
  rw [String.toList_intercalate, String.toList_intercalate, comma, items_intercalate,
    items_intercalate]
  induction h with
  | nil => rfl
  | item front item back opened closed rest ih =>
    rw [List.map_cons, List.map_cons, List.flatMap_cons, List.flatMap_cons, ih,
      String.toList_append, String.toList_append, items_back closed, items_front opened]
  | blank blank rest ih =>
    rw [List.map_cons, List.flatMap_cons, ih, items_of_blank blank, List.nil_append]

/-! ## Routes -/

theorem parseList_append (p : Protocol) (a b : String) :
    parseList p (a ++ "," ++ b) = do
      let rs ← parseList p a
      let ss ← parseList p b
      return rs ++ ss := by
  have texts : (a ++ "," ++ b).toList = a.toList ++ ',' :: b.toList := by
    rw [String.toList_append, String.toList_append, List.append_assoc]
    rfl
  rw [parseList, parseListChars, texts, items_append, List.mapM_append]
  rfl

/-- Two lists with a comma between them give the routes of both, or the first error. Blanks around
items and blank items change nothing. -/
theorem readList_join (p : Protocol) :
    (∀ a b : String, readList p (a ++ "," ++ b) =
      match readList p a with
      | .error e => .error e
      | .ok rs =>
        match readList p b with
        | .error e => .error e
        | .ok ss => .ok (rs ++ ss)) ∧
    ∀ plain padded : List String, Padded plain padded →
      readList p (",".intercalate padded) = readList p (",".intercalate plain) := by
  refine ⟨fun a b => ?_, fun plain padded h => ?_⟩
  · rw [readList, parseList_append, readList, readList]
    cases parseList p a with
    | error e => rfl
    | ok rs =>
      cases parseList p b with
      | error e => rfl
      | ok ss => rfl
  · rw [readList, readList, parseList, parseList, parseListChars, parseListChars, items_padded h]

/-- Two rules with blanks and blank items, of which the second is refused without its blanks. -/
theorem readList_join_blankItems :
    Padded ["8080:a:80", "bad:"] ["", "\t8080:a:80 ", "\u00a0", "bad:\u3000"] ∧
      readList .tcp ",\t8080:a:80 ,\u00a0,bad:\u3000" =
        .error (.badRule "bad:" "expected LOCALPORT:REMOTEIP:REMOTEPORT") := by
  have padded : Padded ["8080:a:80", "bad:"] ["", "\t8080:a:80 ", "\u00a0", "bad:\u3000"] :=
    .blank (List.forall_mem_nil _) (.item "\t" "8080:a:80" " "
      (List.forall_mem_singleton.mpr rfl) (List.forall_mem_singleton.mpr rfl)
      (.blank (List.forall_mem_singleton.mpr rfl) (.item "" "bad:" "\u3000"
        (List.forall_mem_nil _) (List.forall_mem_singleton.mpr rfl) .nil)))
  have refused : parseList .tcp "8080:a:80,bad:" = .error ⟨"bad:", .shape⟩ := by decide +kernel
  refine ⟨padded, ((readList_join .tcp).2 _ _ padded).trans ?_⟩
  have plain : ",".intercalate ["8080:a:80", "bad:"] = "8080:a:80,bad:" := rfl
  rw [plain, readList, refused]
  rfl

end Rule

end SocketRelay
