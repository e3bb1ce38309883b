import GlyphBook.Json.Icons
import GlyphBook.Proofs.Json.Kinds
import GlyphBook.Proofs.Json.Magnitude
import GlyphBook.Proofs.Json.Stream
import GlyphBook.Proofs.Registry.Boundary
import GlyphBook.Registry.Builtin

/-!
# The first problem of a text is reported

Lists and tables of identifiers are judged while they are read. A name that nobody declared, or a
value that is no string, decides the outcome where it stands: the items in front of it were good,
and what follows is not looked at, however broken it is and whichever key it would bind again
(`Judged.first`). Only a text that ends too early, or goes on behind its value, is no JSON.

A number is refused as such if it is seen at all. Every number up to `Binary64.safe` is, but not
every number up to the largest double (`not_seen_below_largest`), and one that is not seen makes the
text no JSON.
-/

namespace GlyphBook

namespace Registry

open Json

variable (R : Registry)

/-! ## Problems -/

/-- A problem in the place of an identifier, with the error that it makes. Where a value is not a
string, the character behind it is part of the problem, since a number might go on. -/
inductive Problem : List Char → Json.Error → Prop where
  | unknown {w : List Char} {name : String} :
      StringForm w name → ¬ R.Declares name → Problem w (.unknownIcon ⟨name⟩)
  | otherKind {w : List Char} {seen : Seen} {c : Char} :
      OtherForm w seen → ¬ Continues c → Problem (w ++ [c]) (.mismatch ⟨seen, "a string"⟩)
  | notSeen {w : List Char} {n : Numeral} {c : Char} :
      NumeralForm w n → n.seen? = none → ¬ Continues c → Problem (w ++ [c]) .notJson

variable {R} {bad : List Char} {e : Json.Error}

theorem readId_of_error {cs : List Char} (h : readString cs = .error e) :
    R.readId cs = .error e := by
  rw [readId, h]
  rfl

theorem readId_of_unknown {cs after : List Char} {name : String} {unknown : UnknownIcon}
    (hread : readString cs = .ok (name, after)) (hlookup : R.lookup name = .error unknown) :
    R.readId cs = .error (.unknownIcon unknown) := by
  simp only [readId, hread, Bind.bind, Except.bind, hlookup]
  rfl

theorem readId_of_declared {cs after : List Char} {name : String} {id : R.Id}
    (hread : readString cs = .ok (name, after)) (hlookup : R.lookup name = .ok id) :
    R.readId cs = .ok (id, after) := by
  simp only [readId, hread, Bind.bind, Except.bind, hlookup]
  rfl

theorem Problem.readId (h : R.Problem bad e) {b : List Char} (hb : Blank b) (s : List Char) :
    R.readId (b ++ (bad ++ s)) = .error e := by
  have hfront : readString (b ++ (bad ++ s)) = readString (bad ++ s) := by
    unfold readString
    rw [skipBlanks_append hb]
  cases h with
  | @unknown w name hw hname =>
      have hread : readString (b ++ (bad ++ s)) = .ok (name, s) :=
        (readString_reads _ name s).mpr ⟨b, bad, hb, hw, rfl⟩
      exact readId_of_unknown hread (R.lookup_of_not_declares hname)
  | otherKind hw hc =>
      rw [List.append_assoc] at hfront ⊢
      exact readId_of_error (hfront.trans (readString_of_otherForm hw hc s))
  | notSeen hw hn hc =>
      rw [List.append_assoc] at hfront ⊢
      exact readId_of_error (hfront.trans (readString_of_not_seen hw hn hc s))

/-- A problem starts with a character of its own, not with the end of a list. -/
theorem Problem.starts (h : R.Problem bad e) :
    ∃ c t, bad = c :: t ∧ isBlank c = false ∧ c ≠ ']' := by
  cases h with
  | unknown hw _ =>
      obtain ⟨u, rfl, -⟩ := hw
      exact ⟨'"', _, rfl, by decide, by decide⟩
  | otherKind hw _ =>
      obtain ⟨c, t, rfl, hc⟩ := startsOther_form hw
      exact ⟨c, _, rfl, hc.noBlank, hc.noClosing⟩
  | notSeen hw _ _ =>
      obtain ⟨c, t, rfl, hc⟩ := startsOther_numeral hw
      exact ⟨c, _, rfl, hc.noBlank, hc.noClosing⟩

theorem Problem.skipBlanks (h : R.Problem bad e) {b : List Char} (hb : Blank b) (s : List Char) :
    ∃ c t, Json.skipBlanks (b ++ (bad ++ s)) = c :: t ∧ c ≠ ']' ∧ bad ++ s = c :: t := by
  obtain ⟨c, t, rfl, hblank, hc⟩ := h.starts
  refine ⟨c, t ++ s, ?_, hc, rfl⟩
  rw [skipBlanks_append hb]
  exact skipBlanks_cons hblank _

/-! ## Items with a problem -/

variable (R)

theorem streams_readId : Streams R.readId R.readId := by
  intro p q id rest h
  obtain ⟨⟨name, after⟩, hread, hlookup⟩ := bind_eq_ok_iff.mp h
  rcases streams_readString p q name after hread with herror | ⟨rest', hsome, rfl⟩
  · exact Or.inl (readId_of_error herror)
  · right
    cases hname : R.lookup name with
    | error e =>
        simp only [hname] at hlookup
        cases hlookup
    | ok id' =>
        simp only [hname] at hlookup
        obtain ⟨rfl, rfl⟩ := Prod.mk.inj (Except.ok.inj hlookup)
        exact ⟨rest', readId_of_declared hsome hname, rfl⟩

variable {R}

theorem element_of_problem (h : R.Problem bad e) {b : List Char} (hb : Blank b) (s : List Char) :
    element R.readId (b ++ (bad ++ s)) = .error e := by
  obtain ⟨c, t, hfront, hc, heq⟩ := h.skipBlanks hb s
  rw [element_of_cons R.readId hfront hc, ← heq]
  exact h.readId blank_nil s

/-- A key and its colon, with blanks around them. -/
inductive KeyForm : List Char → Prop where
  | key {b k b' b'' : List Char} {key : String} :
      Blank b → StringForm k key → Blank b' → Blank b'' →
      KeyForm (b ++ (k ++ (b' ++ ':' :: b'')))

theorem KeyForm.starts {k : List Char} (h : KeyForm k) (rest : List Char) :
    ∃ t, Json.skipBlanks (k ++ rest) = '"' :: t := by
  cases h with
  | key hb hk _ _ =>
      obtain ⟨u, rfl, -⟩ := hk
      simp [skipBlanks_append hb, skipBlanks_quote]

theorem member_of_problem (h : R.Problem bad e) {k : List Char} (hk : KeyForm k) (s : List Char) :
    member R.readId (k ++ (bad ++ s)) = .error e := by
  cases hk with
  | @key b _ b' b'' key hb hkey hb' hb'' =>
      obtain ⟨u, rfl, hu⟩ := hkey
      have hfront : Json.skipBlanks (b ++ ('"' :: (u ++ ['"']) ++ (b' ++ ':' :: b'')) ++ (bad ++ s))
          = '"' :: (u ++ '"' :: (b' ++ ':' :: (b'' ++ (bad ++ s)))) := by
        simp [skipBlanks_append hb, skipBlanks_quote]
      have hread : readText? (u ++ '"' :: (b' ++ ':' :: (b'' ++ (bad ++ s))))
          = some (key.toList, b' ++ ':' :: (b'' ++ (bad ++ s))) :=
        readText?_eq_some_iff.mpr ⟨u, rfl, hu⟩
      have hcolon : Json.skipBlanks (b' ++ ':' :: (b'' ++ (bad ++ s)))
          = ':' :: (b'' ++ (bad ++ s)) := by
        rw [skipBlanks_append hb', skipBlanks_cons (by decide)]
      rw [member, hfront, readMember_quote, hread]
      show readKeyed R.readId key.toList _ = _
      rw [readKeyed_colon R.readId key.toList hcolon, h.readId hb'' s]
      rfl

/-! ## Judging texts -/

/-- What stands in front of an element: the bracket and good elements. -/
inductive ListFront (R : Registry) : List Char → Prop where
  | elements {b lead b' : List Char} {ids : List R.Id} :
      Blank b → Leading R.IdForm lead ids → Blank b' → ListFront R (b ++ '[' :: (lead ++ b'))

/-- What stands in front of a value of a table: the brace, good members and the key. -/
inductive TableFront (R : Registry) : List Char → Prop where
  | members {b lead k : List Char} {members : List (String × R.Id)} :
      Blank b → Leading (MemberForm R.IdForm) lead members → KeyForm k →
      TableFront R (b ++ '{' :: (lead ++ k))

/-- A shape whose texts are judged by the first problem in them. -/
structure Judged (R : Registry) (parse : String → Except Json.Error β) (Front : List Char → Prop)
    (form : List Char → γ → Prop) : Prop where
  /-- Behind a good front a problem is the error of the text, whatever follows. -/
  first : ∀ {front bad : List Char} {e : Json.Error}, Front front → R.Problem bad e →
    ∀ s, parse (String.ofList (front ++ (bad ++ s))) = .error e
  /-- A text that breaks off before its value is complete is no JSON. -/
  broken : ∀ {b w p q : List Char} {v : γ}, Blank b → form w v → b ++ w = p ++ q → q ≠ [] →
    parse (String.ofList p) = .error .notJson
  /-- A text that goes on behind its value is no JSON. -/
  trailing : ∀ {b w rest : List Char} {v : γ}, Blank b → form w v → ¬ Blank rest →
    parse (String.ofList (b ++ (w ++ rest))) = .error .notJson

theorem readAll_of_error {reader : Reader α} {cs : List Char} (h : reader cs = .error e) :
    readAll reader (String.ofList cs) = .error e := by
  rw [readAll, String.toList_ofList, h]
  rfl

theorem judged_list (R : Registry) :
    Judged R R.parseList (ListFront R) (Bracketed '[' ']' R.IdForm) := by
  have hreads : Reads (readList R.readId) (Bracketed '[' ']' R.IdForm) :=
    readList_reads R.readId_reads R.quoted_idForm
  have hstreams : Streams (readList R.readId) (readList R.readId) := by
    rw [readList_eq]
    exact streams_readBracketed (streams_element R.streams_readId) '[' ']' "a sequence"
  refine ⟨?_, readAll_of_cut hreads hstreams, readAll_of_trailing hreads⟩
  intro front bad e hfront hbad s
  cases hfront with
  | @elements b lead b' ids hb hlead hb' =>
      obtain ⟨c, t, hstart, hc, -⟩ := hbad.skipBlanks hb' s
      refine readAll_of_error ?_
      rw [readList_eq]
      simp only [List.append_assoc, List.cons_append]
      exact readBracketed_of_leading (element_reads R.readId_reads R.quoted_idForm) R.quoted_idForm
        (by decide) (by decide) (by decide) hlead (element_of_problem hbad hb' s)
        ⟨c, t, hstart, hc⟩ hb

theorem judged_table (R : Registry) : Judged R R.parseTable (TableFront R) R.TableForm := by
  have hreads : Reads (readTable R.readId) R.TableForm := readTable_reads R.readId_reads
  have hstreams : Streams (readTable R.readId) (readTable R.readId) := by
    rw [readTable_eq]
    exact streams_readBracketed (streams_member R.streams_readId) '{' '}' "a map"
  have hparse {text : String} {e : Json.Error} (h : readAll (readTable R.readId) text = .error e) :
      R.parseTable text = .error e := by
    rw [parseTable, h]
    rfl
  refine ⟨?_, fun hb hw hcut hq => hparse (readAll_of_cut hreads hstreams hb hw hcut hq),
    fun hb hw hrest => hparse (readAll_of_trailing hreads hb hw hrest)⟩
  intro front bad e hfront hbad s
  cases hfront with
  | @members b lead k members hb hlead hk =>
      obtain ⟨t, hstart⟩ := hk.starts (bad ++ s)
      refine hparse (readAll_of_error ?_)
      rw [readTable_eq]
      simp only [List.append_assoc, List.cons_append]
      exact readBracketed_of_leading (readMember_reads R.readId_reads) quoted_memberForm
        (by decide) (by decide) (by decide) hlead (member_of_problem hbad hk s)
        ⟨'"', t, hstart, by decide⟩ hb

theorem message?_mismatch (seen : Seen) : (Json.Error.mismatch ⟨seen, "a string"⟩).message?
    = some ("invalid type: " ++ seen.description numbers ++ ", expected a string") := by
  show some ("invalid type: " ++ seen.description numbers ++ ", expected " ++ "a string") = _
  rw [String.append_assoc]
  rfl

/-- **The first problem is reported.** Lists and tables are judged by it, a text that goes on behind
any value is no JSON, and the errors say what was wrong. A number is refused as the integer or the
double that it is if it is seen, and every safe number is. -/
theorem first_problem (R : Registry) :
    Judged R R.parseList (ListFront R) (Bracketed '[' ']' R.IdForm)
      ∧ Judged R R.parseTable (TableFront R) R.TableForm
      ∧ (∀ {b w rest : List Char} {id : R.Id}, Blank b → R.IdForm w id → ¬ Blank rest →
        R.parseId (String.ofList (b ++ (w ++ rest))) = .error .notJson)
      ∧ (∀ {b w rest : List Char} {id? : Option R.Id}, Blank b → OptionalForm R.IdForm w id? →
        ¬ Blank rest → R.parseOptional (String.ofList (b ++ (w ++ rest))) = .error .notJson)
      ∧ (∀ name, (Json.Error.unknownIcon ⟨name⟩).message?
        = some ("unknown icon identifier '" ++ name ++ "'"))
      ∧ (∀ seen, (Json.Error.mismatch ⟨seen, "a string"⟩).message?
        = some ("invalid type: " ++ seen.description numbers ++ ", expected a string"))
      ∧ (∀ n : Numeral, (∀ seen, n.seen? = some seen → n.Sees seen)
        ∧ (n.magnitude ≤ Binary64.safe → ∃ seen, n.seen? = some seen)) :=
  ⟨judged_list R, judged_table R, readAll_of_trailing R.readId_reads,
    readAll_of_trailing (readOptional_reads R.readId_reads R.quoted_idForm), fun _ => rfl,
    message?_mismatch, fun n => ⟨fun _ => n.sees_of_seen?, n.exists_seen⟩⟩

/-- A number below the largest double that rounding takes past it. -/
def nearlyLargest : Numeral := ⟨false, "17976931348623157081".toList, none, some 289⟩

theorem numeralForm_nearlyLargest :
    NumeralForm "17976931348623157081e289".toList nearlyLargest := by
  have hwhole : WholeForm "17976931348623157081".toList :=
    .digits rfl (by decide) (List.all_eq_true.mp rfl)
  have hexponent : ExponentForm "e289".toList (some 289) :=
    .unsigned (Or.inl rfl) ⟨List.cons_ne_nil _ _, List.all_eq_true.mp rfl⟩
  exact .positive (.parts hwhole .none hexponent)

theorem magnitude_nearlyLargest : nearlyLargest.magnitude ≤ Binary64.largest := by
  have hdigits : nearlyLargest.digits = 17976931348623157081 := by decide
  have hle : 17976931348623157081 * 10 ^ 289 ≤ Binary64.largest := by decide +kernel
  rw [Numeral.magnitude, hdigits]
  show (17976931348623157081 : ℚ) * 10 ^ ((289 : Nat) - 0 : Int) ≤ _
  rw [sub_zero, zpow_natCast]
  exact_mod_cast hle

/-- The largest double is larger than some numbers that are not seen. -/
theorem not_seen_below_largest :
    NumeralForm "17976931348623157081e289".toList nearlyLargest
      ∧ nearlyLargest.magnitude ≤ Binary64.largest
      ∧ icons.parseList "[17976931348623157081e289,1]" = .error .notJson := by
  have hnotSeen : nearlyLargest.seen? = none := by decide +kernel
  have hproblem : icons.Problem ("17976931348623157081e289".toList ++ [',']) .notJson :=
    .notSeen numeralForm_nearlyLargest hnotSeen (by unfold Continues; decide)
  refine ⟨numeralForm_nearlyLargest, magnitude_nearlyLargest, ?_⟩
  exact (judged_list icons).first (.elements blank_nil .nil blank_nil) hproblem ['1', ']']

end Registry

end GlyphBook
