import ExpiryGate.Proofs.Json.Spelling

namespace ExpiryGate.Json

/-- JSON white space. -/
def blanks : List Char := [' ', '\t', '\n', '\r']

/-- The characters that close an array or an object. -/
def closings : List Char := [']', '\x7d']

/-- The characters that open a value which is no number. -/
def openings : List Char := ['"', '[', '\x7b', 'n', 't', 'f']

theorem skipSpace_cons {c : Char} (rest : List Char) (hc : c ∉ blanks) :
    skipSpace (c :: rest) = c :: rest := by
  simp only [blanks, List.mem_cons, List.not_mem_nil, or_false, not_or] at hc
  obtain ⟨hspace, htab, hfeed, hreturn⟩ := hc
  simp [skipSpace, hspace, htab, hfeed, hreturn]

theorem dropWord_append (word : String) (rest : List Char) :
    dropWord word (word.toList ++ rest) = some rest := by
  have hprefix : word.toList.isPrefixOf (word.toList ++ rest) = true := by
    simp
  rw [dropWord, if_pos hprefix, ← String.length_toList, List.drop_left]

/-- A digit or a minus sign opens an integer. -/
theorem signed_opens (n : Int) :
    ∃ c body, Decimal.signed n = c :: body ∧ c ∉ blanks ++ closings ++ openings := by
  cases n with
  | ofNat m =>
    obtain ⟨c, body, hdigits⟩ := List.exists_cons_of_ne_nil (Decimal.digits_ne_nil m)
    have hmem : c ∈ Decimal.digits m := by
      simp [hdigits]
    have hdigit := Decimal.isDigit_of_mem_digits hmem
    have hnone : (blanks ++ closings ++ openings).all fun c => !c.isDigit := by
      decide
    refine ⟨c, body, hdigits, fun hopens => ?_⟩
    have hother := List.all_eq_true.1 hnone c hopens
    simp [hdigit] at hother
  | negSucc m => exact ⟨'-', _, rfl, by decide⟩

/-- No character that opens a value is white space or closes an array or object. -/
theorem spell_opens {a : Json} (ha : a.Whole) :
    ∃ c body, a.spell = c :: body ∧ c ∉ blanks ++ closings := by
  cases ha with
  | null => exact ⟨'n', _, rfl, by decide⟩
  | boolean b =>
    cases b
    · exact ⟨'f', _, rfl, by decide⟩
    · exact ⟨'t', _, rfl, by decide⟩
  | number hn =>
    obtain ⟨c, body, hsigned, hc⟩ := signed_opens _
    exact ⟨c, body, (spell_integer hn).trans hsigned, fun h => hc (List.mem_append_left _ h)⟩
  | string s => exact ⟨'"', _, rfl, by decide⟩
  | array _ => exact ⟨'[', _, spell_array _, by decide⟩
  | object _ => exact ⟨'\x7b', _, spell_object _, by decide⟩

/-- The reader takes the text of a value in front of what can follow it, and arranges the members of
    objects by code points. -/
def ReadsBack (a : Json) : Prop :=
  ∀ fuel rest, 2 * a.spell.length ≤ fuel → Ended rest →
    readValue fuel (a.spell ++ rest) = some (arrange byCodePoints a, rest)

theorem readsBack_integer {n : Int} (hn : n.natAbs ≤ maxWhole) :
    ReadsBack (.number (.integer n)) := by
  intro fuel rest hfuel hended
  obtain ⟨c, body, hsigned, hc⟩ := signed_opens n
  have hread := readNumber_signed hn hended
  rw [spell_integer hn, hsigned] at hfuel
  rw [hsigned, List.cons_append] at hread
  obtain ⟨fuel, rfl⟩ := Nat.exists_eq_succ_of_ne_zero (n := fuel) (by simp at hfuel; omega)
  rw [List.append_assoc, List.mem_append, not_or] at hc
  obtain ⟨hspace, hother⟩ := hc
  simp only [openings, List.mem_append, List.mem_cons, List.not_mem_nil, or_false, not_or] at hother
  obtain ⟨_, hquote, hbracket, hbrace, hnull, htrue, hfalse⟩ := hother
  rw [spell_integer hn, hsigned, List.cons_append, readValue, skipSpace_cons _ hspace]
  simp only [hquote, hbracket, hbrace, hnull, htrue, hfalse, if_false, hread]
  rfl

theorem readsBack_string (s : String) : ReadsBack (.string s) := by
  intro fuel rest hfuel _
  have hlength : 0 < (quote s).length := by
    simp [quote]
  rw [spell] at hfuel
  obtain ⟨fuel, rfl⟩ := Nat.exists_eq_succ_of_ne_zero (n := fuel) (by omega)
  obtain ⟨body, hquote, hread⟩ := readString_quote s rest
  rw [spell, hquote, readValue, skipSpace_cons _ (by decide)]
  simp [hread, arrange]

/-- The items are read one by one, each in front of a comma or the closing bracket. -/
theorem readItems_spell {items : List Json} (hne : items ≠ [])
    (hitems : ∀ item ∈ items, item.ReadsBack) (fuel : Nat) (done : List Json) (rest : List Char)
    (hfuel : 2 * (commaSeparated (items.map spell)).length < fuel) :
    readItems fuel done (commaSeparated (items.map spell) ++ ']' :: rest) =
      some (.array (done.reverse ++ items.map (arrange byCodePoints)), rest) := by
  induction items generalizing fuel done with
  | nil => exact absurd rfl hne
  | cons item items ih =>
    obtain ⟨fuel, rfl⟩ := Nat.exists_eq_succ_of_ne_zero (n := fuel) (by omega)
    have hread := hitems item List.mem_cons_self
    cases items with
    | nil =>
      simp only [List.map_cons, List.map_nil, commaSeparated_singleton] at hfuel ⊢
      rw [readItems, hread fuel _ (by omega) (ended_cons _ (by simp))]
      simp [skipSpace]
    | cons next items =>
      simp only [List.map_cons, commaSeparated_cons_cons, List.length_append, List.length_cons,
        List.append_assoc, List.cons_append] at hfuel ⊢
      rw [readItems, hread fuel _ (by omega) (ended_cons _ (by simp))]
      simp only [skipSpace]
      have hrest := ih (by simp) (fun a ha => hitems a (List.mem_cons_of_mem _ ha)) fuel
        (arrange byCodePoints item :: done)
        (by simp only [List.map_cons]; omega)
      simpa using hrest

/-- Between brackets whose text does not begin with the closing one items are read. -/
theorem readValue_items (fuel : Nat) {c : Char} (tail : List Char) (hc : c ∉ blanks ++ closings) :
    readValue (fuel + 1) ('[' :: c :: tail) = readItems fuel [] (c :: tail) := by
  rw [List.mem_append, not_or] at hc
  obtain ⟨hspace, hclosing⟩ := hc
  have hbracket : c ≠ ']' := by
    rintro rfl
    exact hclosing (by decide)
  rw [readValue, skipSpace_cons _ (by decide)]
  simp only [skipSpace_cons tail hspace]
  simp [hbracket]

/-- An array is read back if its items are. -/
theorem readsBack_array {items : List Json} (hwhole : ∀ item ∈ items, item.Whole)
    (hitems : ∀ item ∈ items, item.ReadsBack) : ReadsBack (.array items) := by
  intro fuel rest hfuel _
  rw [spell_array] at hfuel ⊢
  simp only [List.length_cons, List.length_append, List.length_nil] at hfuel
  obtain ⟨fuel, rfl⟩ := Nat.exists_eq_succ_of_ne_zero (n := fuel) (by omega)
  rw [List.cons_append, List.append_assoc, List.singleton_append, arrange_array]
  cases items with
  | nil => simp [readValue, skipSpace]
  | cons item items =>
    have hread := readItems_spell (by simp) hitems fuel [] rest (by omega)
    obtain ⟨c, body, hopens, hc⟩ := spell_opens (hwhole item List.mem_cons_self)
    obtain ⟨tail, htail⟩ := commaSeparated_opens hopens (items.map spell)
    rw [List.map_cons, htail, List.cons_append] at hread ⊢
    rw [readValue_items fuel _ hc, hread, List.reverse_nil, List.nil_append]

/-- A key is read up to the text of its value. -/
theorem readKey_quote (key : String) (rest : List Char) :
    readKey (quote key ++ ':' :: rest) = some (key, rest) := by
  obtain ⟨body, hquote, hread⟩ := readString_quote key (':' :: rest)
  rw [hquote, readKey, skipSpace_cons _ (by decide)]
  simp [hread, skipSpace]

/-- The members are read one by one, each in front of a comma or the closing brace, and then put
    into the order of their keys. -/
theorem readMembers_spell {members : List (String × Json)} (hne : members ≠ [])
    (hmembers : ∀ m ∈ members, m.2.ReadsBack) (fuel : Nat) (done : List (String × Json))
    (rest : List Char) (hfuel : 2 * (commaSeparated (members.map spellMember)).length < fuel) :
    readMembers fuel done (commaSeparated (members.map spellMember) ++ '\x7d' :: rest) =
      some (ofMembers (done.reverse ++ members.map fun m => (m.1, arrange byCodePoints m.2)),
        rest) := by
  induction members generalizing fuel done with
  | nil => exact absurd rfl hne
  | cons m members ih =>
    obtain ⟨fuel, rfl⟩ := Nat.exists_eq_succ_of_ne_zero (n := fuel) (by omega)
    obtain ⟨key, value⟩ := m
    have hread := hmembers (key, value) List.mem_cons_self
    cases members with
    | nil =>
      simp only [List.map_cons, List.map_nil, commaSeparated_singleton, spellMember,
        List.length_append, List.length_cons, List.append_assoc, List.cons_append] at hfuel ⊢
      rw [readMembers, readKey_quote]
      simp only
      rw [hread fuel _ (by simp only; omega) (ended_cons _ (by simp))]
      simp [skipSpace]
    | cons next members =>
      simp only [List.map_cons, commaSeparated_cons_cons, List.length_append, List.length_cons,
        List.append_assoc, List.cons_append, spellMember] at hfuel ⊢
      rw [readMembers, readKey_quote]
      simp only
      rw [hread fuel _ (by simp only; omega) (ended_cons _ (by simp))]
      simp only [skipSpace]
      have hrest := ih (by simp) (fun a ha => hmembers a (List.mem_cons_of_mem _ ha)) fuel
        ((key, arrange byCodePoints value) :: done)
        (by simp only [List.map_cons]; omega)
      simpa using hrest

/-- Between braces whose text does not begin with the closing one members are read. -/
theorem readValue_members (fuel : Nat) (tail : List Char) :
    readValue (fuel + 1) ('\x7b' :: '"' :: tail) = readMembers fuel [] ('"' :: tail) := by
  rw [readValue, skipSpace_cons _ (by decide)]
  simp [skipSpace]

theorem spellMember_opens (m : String × Json) : ∃ body, spellMember m = '"' :: body := by
  obtain ⟨key, value⟩ := m
  exact ⟨_, rfl⟩

/-- An object is read back in standard form if the values of its members are read back. -/
theorem readsBack_object {members : List (String × Json)}
    (hmembers : ∀ m ∈ members, m.2.ReadsBack) : ReadsBack (.object members) := by
  intro fuel rest hfuel _
  rw [spell_object] at hfuel ⊢
  simp only [List.length_cons, List.length_append, List.length_nil] at hfuel
  obtain ⟨fuel, rfl⟩ := Nat.exists_eq_succ_of_ne_zero (n := fuel) (by omega)
  rw [List.cons_append, List.append_assoc, List.singleton_append, arrange_object]
  cases members with
  | nil => simp [readValue, skipSpace, byCodePoints, keepLast]
  | cons m members =>
    have hread := readMembers_spell (by simp) hmembers fuel [] rest (by omega)
    obtain ⟨body, hopens⟩ := spellMember_opens m
    obtain ⟨tail, htail⟩ := commaSeparated_opens hopens (members.map spellMember)
    rw [List.map_cons, htail, List.cons_append] at hread ⊢
    rw [readValue_members, hread, List.reverse_nil, List.nil_append]
    rfl

theorem readsBack_null : ReadsBack .null := by
  intro fuel rest hfuel _
  cases fuel with
  | zero => simp [spell] at hfuel
  | succ fuel =>
    rw [spell, show "null".toList ++ rest = 'n' :: ("ull".toList ++ rest) from rfl, readValue,
      skipSpace_cons _ (by decide)]
    simp only [dropWord_append]
    simp [arrange]

theorem readsBack_boolean (b : Bool) : ReadsBack (.boolean b) := by
  intro fuel rest hfuel _
  cases fuel with
  | zero => cases b <;> simp [spell] at hfuel
  | succ fuel =>
    cases b with
    | false =>
      rw [spell, if_neg (by decide),
        show "false".toList ++ rest = 'f' :: ("alse".toList ++ rest) from rfl, readValue,
        skipSpace_cons _ (by decide)]
      simp only [dropWord_append]
      simp [arrange]
    | true =>
      rw [spell, if_pos rfl, show "true".toList ++ rest = 't' :: ("rue".toList ++ rest) from rfl,
        readValue, skipSpace_cons _ (by decide)]
      simp only [dropWord_append]
      simp [arrange]

/-- Each value whose numbers are whole is read back, by induction on the value. -/
theorem Whole.readsBack {a : Json} (ha : a.Whole) : a.ReadsBack := by
  induction ha with
  | null => exact readsBack_null
  | boolean b => exact readsBack_boolean b
  | number hn => exact readsBack_integer hn
  | string s => exact readsBack_string s
  | array hwhole ih => exact readsBack_array hwhole ih
  | object _ ih => exact readsBack_object ih

/-- The reader takes a text that is the plain text of a value to the value in standard form. -/
theorem read?_spell {a : Json} (ha : a.Whole) :
    read? (String.ofList a.spell) = some (arrange byCodePoints a) := by
  have hread := ha.readsBack (2 * a.spell.length + 2) [] (by omega) ended_nil
  rw [List.append_nil] at hread
  rw [read?, String.length_ofList, String.toList_ofList, hread]
  rfl

/-- In front of what can follow a value its text ends where the value does. -/
theorem spell_append_inj {a b : Json} (ha : a.Whole) (hb : b.Whole) {r q : List Char}
    (hr : Ended r) (hq : Ended q) (htext : a.spell ++ r = b.spell ++ q) :
    a.spell = b.spell ∧ r = q := by
  have hleft := ha.readsBack (2 * (a.spell.length + b.spell.length)) r (by omega) hr
  have hright := hb.readsBack (2 * (a.spell.length + b.spell.length)) q (by omega) hq
  rw [htext, hright, Option.some.injEq, Prod.mk.injEq] at hleft
  obtain ⟨-, rfl⟩ := hleft
  exact ⟨List.append_cancel_right htext, rfl⟩

/-- A list is told from its joined texts if each text shows where it ends. -/
theorem commaSeparated_map_inj {α : Type} {write : α → List Char} {xs ys : List α}
    (hxs : ∀ x ∈ xs, write x ≠ []) (hys : ∀ y ∈ ys, write y ≠ [])
    (hinj : ∀ x ∈ xs, ∀ y ∈ ys, ∀ {r q}, Ended r → Ended q → write x ++ r = write y ++ q →
      x = y ∧ r = q)
    (htext : commaSeparated (xs.map write) = commaSeparated (ys.map write)) : xs = ys := by
  have hnil : ∀ x xs, write x ≠ [] → commaSeparated ((x :: xs).map write) ≠ [] := by
    intro x xs hx
    obtain ⟨c, body, hopens⟩ := List.exists_cons_of_ne_nil hx
    obtain ⟨tail, htail⟩ := commaSeparated_opens hopens (xs.map write)
    simp [htail]
  -- Behind the first text there is nothing, or a comma and the other texts.
  have hcons : ∀ x xs, ∃ tail, commaSeparated ((x :: xs).map write) = write x ++ tail ∧
      Ended tail ∧ commaSeparated (xs.map write) = tail.drop 1 := by
    intro x xs
    cases xs with
    | nil => exact ⟨[], by simp, ended_nil, rfl⟩
    | cons y ys => exact ⟨_, commaSeparated_cons_cons .., ended_cons _ (.inl rfl), rfl⟩
  induction xs generalizing ys with
  | nil =>
    cases ys with
    | nil => rfl
    | cons y ys => exact absurd htext.symm (hnil y ys (hys y List.mem_cons_self))
  | cons x xs ih =>
    cases ys with
    | nil => exact absurd htext (hnil x xs (hxs x List.mem_cons_self))
    | cons y ys =>
      obtain ⟨r, hx, hr, hrest⟩ := hcons x xs
      obtain ⟨q, hy, hq, hrest'⟩ := hcons y ys
      rw [hx, hy] at htext
      obtain ⟨rfl, rfl⟩ := hinj x List.mem_cons_self y List.mem_cons_self hr hq htext
      rw [ih (fun a ha => hxs a (List.mem_cons_of_mem _ ha))
        (fun b hb => hys b (List.mem_cons_of_mem _ hb))
        (fun a ha b hb => hinj a (List.mem_cons_of_mem _ ha) b (List.mem_cons_of_mem _ hb))
        (hrest.trans hrest'.symm)]

theorem spell_ne_nil {a : Json} (ha : a.Whole) : a.spell ≠ [] := by
  obtain ⟨c, body, hopens, _⟩ := spell_opens ha
  simp [hopens]

theorem spellMember_ne_nil (m : String × Json) : spellMember m ≠ [] := by
  obtain ⟨body, hopens⟩ := spellMember_opens m
  simp [hopens]

/-- Values with the same plain text are equal but for the order of their members, since one text is
    read back as one value. -/
theorem arrange_eq_of_spell_eq {a b : Json} (ha : a.Whole) (hb : b.Whole)
    (htext : a.spell = b.spell) : arrange byCodePoints a = arrange byCodePoints b := by
  rw [← Option.some.injEq, ← read?_spell ha, ← read?_spell hb, htext]

/-- A plain text is the text of one value only, the order of members included. -/
theorem eq_of_spell_eq {a b : Json} (ha : a.Whole) (hb : b.Whole) (htext : a.spell = b.spell) :
    a = b := by
  have hread := arrange_eq_of_spell_eq ha hb htext
  induction ha generalizing b with
  | null => cases hb <;> simp [arrange] at hread ⊢
  | boolean c => cases hb <;> simp [arrange] at hread ⊢; exact hread
  | number _ => cases hb <;> simp [arrange] at hread ⊢; exact hread
  | string s => cases hb <;> simp [arrange] at hread ⊢; exact hread
  | @array items hitems ih =>
    cases hb with
    | @array others hothers =>
      rw [spell_array, spell_array, List.cons.injEq] at htext
      congr 1
      refine commaSeparated_map_inj (fun x hx => spell_ne_nil (hitems x hx))
        (fun y hy => spell_ne_nil (hothers y hy)) (fun x hx y hy r q hr hq h => ?_)
        (List.append_cancel_right htext.2)
      obtain ⟨hspell, hrest⟩ := spell_append_inj (hitems x hx) (hothers y hy) hr hq h
      have hsame := arrange_eq_of_spell_eq (hitems x hx) (hothers y hy) hspell
      exact ⟨ih x hx (hothers y hy) hspell hsame, hrest⟩
    | _ => simp [arrange] at hread
  | @object members hmembers ih =>
    cases hb with
    | @object others hothers =>
      rw [spell_object, spell_object, List.cons.injEq] at htext
      congr 1
      refine commaSeparated_map_inj (fun x _ => spellMember_ne_nil x)
        (fun y _ => spellMember_ne_nil y) (fun x hx y hy r q hr hq h => ?_)
        (List.append_cancel_right htext.2)
      obtain ⟨key, v⟩ := x
      obtain ⟨key', w⟩ := y
      simp only [spellMember, List.append_assoc, List.cons_append] at h
      have hkey := readKey_quote key (v.spell ++ r)
      rw [h, readKey_quote, Option.some.injEq, Prod.mk.injEq] at hkey
      obtain ⟨rfl, hvalue⟩ := hkey
      obtain ⟨hspell, hrest⟩ := spell_append_inj (hmembers _ hx) (hothers _ hy) hr hq hvalue.symm
      have hsame := arrange_eq_of_spell_eq (hmembers _ hx) (hothers _ hy) hspell
      have hv := ih _ hx (hothers _ hy) hspell hsame
      exact ⟨congrArg (Prod.mk _) hv, hrest⟩
    | _ => simp [arrange] at hread

end ExpiryGate.Json
