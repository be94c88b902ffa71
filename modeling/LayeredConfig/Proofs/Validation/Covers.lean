import LayeredConfig.Proofs.Validation.Breach

/-!
# Stretches of rules

A stretch of rules covers some places if its violations are the breaches at
these places, in the order of the places.  Stretches are put together from
single rules, which may count under a condition, and from rules for the items of
a list.

Main statements: `Covers.followed`, `covers_rule`, `covers_each`.
-/

namespace LayeredConfig.Validation

open Rule (demand violations violation?)

variable {c : Config} {Here There : Place → Prop} {rules more : List Rule}

/-- The violations of the rules are the breaches at some places, in the order of the places. -/
def Covers (c : Config) (Here : Place → Prop) (rules : List Rule) : Prop :=
  ∃ entries : List (Place × Violation), entries.Pairwise (fun e e' => e.1.Before e'.1) ∧
    (∀ p v, (p, v) ∈ entries ↔ Here p ∧ Breach c p v) ∧
      entries.map Prod.snd = violations rules

namespace Covers

theorem append (first : Covers c Here rules) (second : Covers c There more)
    (inOrder : ∀ p q, Here p → There q → p.Before q) :
    Covers c (fun p => Here p ∨ There p) (rules ++ more) := by
  obtain ⟨entries, sorted, mem, lists⟩ := first
  obtain ⟨entries', sorted', mem', lists'⟩ := second
  refine ⟨entries ++ entries', ?_, fun p v => ?_, ?_⟩
  · refine List.pairwise_append.mpr ⟨sorted, sorted', fun e member e' member' => ?_⟩
    exact inOrder e.1 e'.1 ((mem e.1 e.2).mp member).1 ((mem' e'.1 e'.2).mp member').1
  · rw [List.mem_append, mem, mem', or_and_right]
  · rw [List.map_append, lists, lists', violations, violations, violations, List.filterMap_append]

theorem congr (covers : Covers c Here rules) (same : ∀ p v, Breach c p v → (Here p ↔ There p)) :
    Covers c There rules := by
  obtain ⟨entries, sorted, mem, lists⟩ := covers
  refine ⟨entries, sorted, fun p v => ?_, lists⟩
  rw [mem]
  exact and_congr_left (same p v)

/-- No rules, and no breaches. -/
theorem empty (clean : ∀ p v, Here p → ¬Breach c p v) : Covers c Here [] :=
  ⟨[], .nil, fun p v => by simpa using clean p v, rfl⟩

/-- One rule at one place. -/
theorem one {p : Place} {r : Rule} (means : ∀ v, r.violation? = some v ↔ Breach c p v) :
    Covers c (· = p) [r] := by
  refine ⟨(r.violation?.map (Prod.mk p)).toList, ?_, fun q v => ?_, ?_⟩
  · cases r.violation? <;> simp
  · rw [Option.mem_toList, Option.map_eq_some_iff]
    constructor
    · rintro ⟨w, found, same⟩
      obtain ⟨rfl, rfl⟩ := Prod.mk.inj same
      exact ⟨rfl, (means w).mp found⟩
    · rintro ⟨rfl, breach⟩
      exact ⟨v, (means v).mpr breach, rfl⟩
  · cases found : r.violation? <;> simp [violations, found]

end Covers

/-! ## Stretches -/

/-- The places of rules that follow each other, from the first to the last. -/
def Between (first last p : Place) : Prop := first.ctorIdx ≤ p.ctorIdx ∧ p.ctorIdx ≤ last.ctorIdx

def At (q : Place) (i : Nat) (p : Place) : Prop := p.ctorIdx = q.ctorIdx ∧ p.index = i

/-- The places of the items under a rule, from one of them on. -/
def From (q : Place) (i : Nat) (p : Place) : Prop := p.ctorIdx = q.ctorIdx ∧ i ≤ p.index

variable {first middle next last p q : Place} {i : Nat} {r : Rule}

/-- Rules and those that follow on them. -/
theorem Covers.followed (before : Covers c (Between first middle) rules)
    (behind : Covers c (Between next last) more)
    (joined : first.ctorIdx ≤ middle.ctorIdx ∧ middle.ctorIdx + 1 = next.ctorIdx ∧
      next.ctorIdx ≤ last.ctorIdx) :
    Covers c (Between first last) (rules ++ more) := by
  refine (before.append behind fun p q here there => .inl ?_).congr fun p v _ => ?_
  · calc p.ctorIdx ≤ middle.ctorIdx := here.2
      _ < next.ctorIdx := Nat.lt_of_succ_le (Nat.le_of_eq joined.2.1)
      _ ≤ q.ctorIdx := there.1
  · unfold Between
    omega

theorem between_self_iff : Between p p q ↔ q.ctorIdx = p.ctorIdx := by
  unfold Between
  omega

theorem covers_rule (p : Place) (single : p.isSingle = true)
    (means : ∀ v, r.Breaks v ↔ Breach c p v) : Covers c (Between p p) [r] := by
  refine (Covers.one fun v => Rule.violation?_eq_some_iff.trans (means v)).congr fun q v _ => ?_
  rw [between_self_iff]
  exact ⟨fun same => same ▸ rfl, Place.eq_of_isSingle single⟩

/-- A rule that counts under a condition. -/
theorem covers_under (p : Place) {condition : Bool} (single : p.isSingle = true)
    (means : ∀ v, condition = true ∧ r.Breaks v ↔ Breach c p v) :
    Covers c (Between p p) (under condition [r]) := by
  cases condition with
  | true => exact covers_rule p single fun v => by rw [← means v, and_iff_right rfl]
  | false =>
      refine .empty fun q v there breach => ?_
      obtain rfl := Place.eq_of_isSingle single (between_self_iff.mp there)
      exact Bool.false_ne_true ((means v).mpr breach).1

theorem covers_demand (p : Place) {field message : String} {condition : Bool} {Fails : Prop}
    (single : p.isSingle = true) (fails : condition = false ↔ Fails)
    (means : ∀ v, Fails ∧ v = ⟨field, message⟩ ↔ Breach c p v) :
    Covers c (Between p p) [demand field message condition] :=
  covers_rule p single fun v => by rw [Rule.breaks_demand_iff, fails, means]

/-- A demand that counts under a condition is broken where the condition holds and its own fails. -/
theorem covers_under_demand (p : Place) {field message : String} {counts condition : Bool}
    {Fails : Prop} (single : p.isSingle = true) (fails : condition = false ↔ Fails)
    (means : ∀ v, (counts = true ∧ Fails) ∧ v = ⟨field, message⟩ ↔ Breach c p v) :
    Covers c (Between p p) (under counts [demand field message condition]) :=
  covers_under p single fun v => by rw [Rule.breaks_demand_iff, fails, ← and_assoc, means]

theorem under_cons (condition : Bool) (r : Rule) (rules : List Rule) :
    under condition (r :: rules) = under condition [r] ++ under condition rules := by
  cases condition <;> rfl

/-! ## Lists of items -/

theorem Covers.item (here : Covers c (At q i) rules) (later : Covers c (From q (i + 1)) more) :
    Covers c (From q i) (rules ++ more) := by
  refine (here.append later fun p p' inside behind => ?_).congr fun p v _ => ?_
  · exact .inr ⟨inside.1.trans behind.1.symm, .inl (inside.2 ▸ behind.2)⟩
  · unfold At From
    omega

theorem Covers.items (items : Covers c (From q 0) rules) : Covers c (Between q q) rules :=
  items.congr fun _ _ _ => by
    rw [between_self_iff]
    exact and_iff_left (Nat.zero_le _)

/-- One rule for each item of a list. -/
theorem covers_each {α : Type} {place : Nat → Place} {xs : List α} {rule : α → Rule}
    (only : ∀ q : Place, q.ctorIdx = (place 0).ctorIdx → ∃ i, q = place i)
    (there : ∀ i, (place i).ctorIdx = (place 0).ctorIdx ∧ (place i).index = i)
    (means : ∀ i v, Breach c (place i) v ↔ ∃ x, xs[i]? = some x ∧ (rule x).Breaks v) :
    Covers c (Between (place 0) (place 0)) (xs.map rule) := by
  -- along the items, of which some stand in front already
  have items (front rest : List α) (whole : front ++ rest = xs) :
      Covers c (From (place 0) front.length) (rest.map rule) := by
    induction rest generalizing front with
    | nil =>
        refine .empty fun p v behind breach => ?_
        obtain ⟨i, rfl⟩ := only p behind.1
        obtain ⟨x, found, _⟩ := (means i v).mp breach
        have inside := (List.getElem?_eq_some_iff.mp found).1
        rw [← whole, List.append_nil, ← (there i).2] at inside
        exact absurd inside (Nat.not_lt.mpr behind.2)
    | cons x rest ih =>
        have found : xs[front.length]? = some x := by
          rw [← whole]
          simp
        have said (v : Violation) :
            (rule x).violation? = some v ↔ Breach c (place front.length) v := by
          rw [Rule.violation?_eq_some_iff, means, found]
          simp
        have here : Covers c (At (place 0) front.length) [rule x] := by
          refine (Covers.one said).congr fun q v _ => ⟨fun same => same ▸ there _, ?_⟩
          rintro ⟨same, index⟩
          obtain ⟨j, rfl⟩ := only q same
          rw [← index, (there j).2]
        have later := ih (front ++ [x]) (by rw [← whole, List.append_assoc]; rfl)
        rw [List.length_append] at later
        exact here.item later
  exact (items [] xs rfl).items

end LayeredConfig.Validation
