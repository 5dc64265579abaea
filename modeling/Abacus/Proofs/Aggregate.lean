import Abacus.Aggregate
import Abacus.Proofs.Residues
import Mathlib.Algebra.BigOperators.Group.List.Basic

/-!
# Sums and products are exact but for one wrap

A fold of numbers wraps around at every one of them. It does to its seed what the script does that
adds, or multiplies by, each number in turn (`sum_eq_accumulator`, `product_eq_accumulator`), and
what a script makes of its accumulator is the residue of the exact result. So nothing of the order
of the numbers, or of where the list is cut, is left in the result (`folds_exact`).
-/

namespace Abacus

/-! ## Residues -/

theorem IsResidue.unique {x : Int} {v w : Int64} (hv : IsResidue x v) (hw : IsResidue x w) :
    v = w :=
  (hw v).1 ((hv v).2 rfl)

/-- A number that fits is its own residue. -/
theorem IsResidue.toInt_eq {x : Int} {v : Int64} (h : IsResidue x v) (hlow : -2 ^ 63 ≤ x)
    (hhigh : x < 2 ^ 63) : v.toInt = x := by
  have hfits : (Int64.ofInt x).toInt = x := Int64.toInt_ofInt_of_le hlow hhigh
  rw [h.unique (isResidue_ofInt x), hfits]

namespace Operation

theorem exact_map_add (x : Int) (ns : List Int64) :
    exact x (ns.map add) = x + (ns.map Int64.toInt).sum := by
  induction ns generalizing x with
  | nil => exact (Int.add_zero x).symm
  | cons n ns ih => rw [List.map_cons, exact_cons, ih, exactEffect, List.map_cons, List.sum_cons,
      Int.add_assoc]

theorem exact_map_multiply (x : Int) (ns : List Int64) :
    exact x (ns.map multiply) = x * (ns.map Int64.toInt).prod := by
  induction ns generalizing x with
  | nil => exact (Int.mul_one x).symm
  | cons n ns ih => rw [List.map_cons, exact_cons, ih, exactEffect, List.map_cons, List.prod_cons,
      Int.mul_assoc]

end Operation

/-! ## Scripts without a reason to stop -/

/-- Operations that every variant supports and that are never rejected, given as text, run to their
end. -/
theorem Script.exists_report (variant : Variant) {ops : List Operation}
    (hsupports : ∀ op ∈ ops, variant.supports op = true)
    (haccepts : ∀ op ∈ ops, ∀ policy v, op.rejection? policy v = none) (initial : Int64)
    (policy : SqrtPolicy) :
    ∃ script report, parse variant (ops.map Operation.render) = .ok script ∧
      script.execute initial policy = .ok report ∧
      report.finalValue = Operation.accumulator initial ops := by
  have haccepted : Operation.Accepted policy initial ops :=
    (Operation.accepted_iff policy initial ops).2 fun i op hi =>
      haccepts op (List.mem_of_getElem? hi) policy _
  obtain ⟨steps, hexecute, htrail⟩ :=
    execute_of_accepted (s := ⟨variant, ops, hsupports⟩) haccepted
  exact ⟨⟨variant, ops, hsupports⟩, _, parse_render ⟨variant, ops, hsupports⟩, hexecute,
    finalValue_report htrail⟩

namespace Aggregate

open Operation (accumulator)

/-! ## Folds as scripts -/

theorem sum_eq_accumulator (ns : List Int64) (seed : Option Int64) :
    sum ns seed = accumulator (seed.getD 0) (ns.map .add) := by
  suffices h : ∀ c : Calculator, (addAll c ns).value = accumulator c.value (ns.map .add) from
    h ⟨seed.getD 0⟩
  induction ns with
  | nil => exact fun c => rfl
  | cons n ns ih => exact fun c => ih (c.add n)

theorem product_eq_accumulator (ns : List Int64) (seed : Option Int64) :
    product ns seed = accumulator (seed.getD 1) (ns.map .multiply) := by
  suffices h : ∀ c : Calculator,
      (multiplyAll c ns).value = accumulator c.value (ns.map .multiply) from h ⟨seed.getD 1⟩
  induction ns with
  | nil => exact fun c => rfl
  | cons n ns ih => exact fun c => ih (c.multiply n)

/-! ## The laws of a fold -/

/-- A fold of numbers onto a seed is exact up to one wrap: `exact` is what it comes to where
integers have no bound, and `word` the name of the operation that does it for one number. -/
structure IsExact (fold : List Int64 → Option Int64 → Int64) (default : Int64)
    (exact : Int → List Int → Int) (word : String) : Prop where
  isResidue : ∀ ns seed,
    IsResidue (exact (seed.getD default).toInt (ns.map Int64.toInt)) (fold ns seed)
  perm : ∀ ns ns' seed, ns.Perm ns' → fold ns seed = fold ns' seed
  /-- Whatever was wrapped on the way. -/
  toInt_eq : ∀ ns seed, -2 ^ 63 ≤ exact (seed.getD default).toInt (ns.map Int64.toInt) →
    exact (seed.getD default).toInt (ns.map Int64.toInt) < 2 ^ 63 →
    (fold ns seed).toInt = exact (seed.getD default).toInt (ns.map Int64.toInt)
  append : ∀ xs ys seed, fold (xs ++ ys) seed = fold ys (some (fold xs seed))
  finalValue : ∀ ns seed variant policy, ∃ script report,
    Script.parse variant (ns.map fun n => word ++ ":" ++ Text.renderInt64 n) = .ok script ∧
      script.execute (seed.getD default) policy = .ok report ∧
      report.finalValue = fold ns seed

/-- A fold that does what a script of one operation does is exact if that operation is, and if the
order of the numbers does not matter where nothing is wrapped. -/
theorem isExact_of_accumulator {fold : List Int64 → Option Int64 → Int64} {default : Int64}
    {exact : Int → List Int → Int} {op : Int64 → Operation} {word : String}
    (hfold : ∀ ns seed, fold ns seed = accumulator (seed.getD default) (ns.map op))
    (hexact : ∀ x (ns : List Int64), Operation.exact x (ns.map op) = exact x (ns.map Int64.toInt))
    (hperm : ∀ (x : Int) (ms ms' : List Int), ms.Perm ms' → exact x ms = exact x ms')
    (hrender : ∀ n, (op n).render = word ++ ":" ++ Text.renderInt64 n)
    (hsupports : ∀ (variant : Variant) n, variant.supports (op n) = true)
    (haccepts : ∀ n policy v, (op n).rejection? policy v = none) :
    IsExact fold default exact word := by
  have hresidue (ns : List Int64) (seed : Option Int64) :
      IsResidue (exact (seed.getD default).toInt (ns.map Int64.toInt)) (fold ns seed) := by
    rw [hfold, ← hexact]
    exact Operation.isResidue_accumulator _ _
  refine ⟨hresidue, ?_, fun ns seed => (hresidue ns seed).toInt_eq, ?_, ?_⟩
  · intro ns ns' seed h
    refine (hresidue ns seed).unique ?_
    rw [hperm _ _ _ (h.map Int64.toInt)]
    exact hresidue ns' seed
  · intro xs ys seed
    rw [hfold, hfold ys, hfold xs, Option.getD_some, List.map_append]
    exact List.foldl_append
  · intro ns seed variant policy
    have hops : ∀ o ∈ ns.map op, ∃ n, op n = o := fun o ho => by
      obtain ⟨n, -, hn⟩ := List.mem_map.1 ho
      exact ⟨n, hn⟩
    obtain ⟨script, report, hparse, hexecute, hfinal⟩ := Script.exists_report variant
      (fun o (ho : o ∈ ns.map op) => by obtain ⟨n, rfl⟩ := hops o ho; exact hsupports variant n)
      (fun o ho => by obtain ⟨n, rfl⟩ := hops o ho; exact haccepts n) (seed.getD default) policy
    refine ⟨script, report, ?_, hexecute, by rw [hfinal, hfold]⟩
    rw [← hparse, List.map_map]
    exact congrArg (Script.parse variant) (List.map_congr_left fun n _ => (hrender n).symm)

/-- Sums and products are exact up to one wrap, in whatever order and in however many parts the
numbers come, and scripts of the same operations come to the same. -/
theorem folds_exact :
    IsExact sum 0 (fun seed ns => seed + ns.sum) "add" ∧
      IsExact product 1 (fun seed ns => seed * ns.prod) "mul" := by
  constructor
  · refine isExact_of_accumulator sum_eq_accumulator Operation.exact_map_add ?_ ?_ ?_ ?_
    · intro x ms ms' h
      exact congrArg (x + ·) h.sum_eq
    · exact fun n => rfl
    · exact fun variant n => rfl
    · exact fun n policy v => rfl
  · refine isExact_of_accumulator product_eq_accumulator Operation.exact_map_multiply ?_ ?_ ?_ ?_
    · intro x ms ms' h
      exact congrArg (x * ·) h.prod_eq
    · exact fun n => rfl
    · exact fun variant n => rfl
    · exact fun n policy v => rfl

/-- The way to zero leads over both ends of the range. -/
example : sum [Int64.maxValue, 1, Int64.minValue] none = 0 ∧
    product [Int64.maxValue, 2, 0] (some 5) = 0 := by decide

end Aggregate

end Abacus
