import ApiCompiler.Proofs.Value.Order
import Mathlib.Order.WithBot

/-!
# Domains of comparable values

Values of which every two compare: texts, numbers of every kind but the undefined one, and lists
over one such domain, which may be lists again. The values of a domain have ranks in a linear order:
texts by their characters, numbers by their exact size with the infinite ones at the ends, lists by
the ranks of their items from the first on. Values compare as their ranks do.
-/

namespace ApiCompiler

/-- The size of a defined number as a member of a linear order. -/
def Size.rank : Size → WithBot (WithTop ℚ)
  | .undefined => ⊥
  | .negativeInfinity => ⊥
  | .exact value => ((value : WithTop ℚ) : WithBot (WithTop ℚ))
  | .infinity => ((⊤ : WithTop ℚ) : WithBot (WithTop ℚ))

theorem Size.below_eq {one other : Size} (defined : one ≠ .undefined) (also : other ≠ .undefined) :
    one.below other = decide (one.rank < other.rank) := by
  have within (value : ℚ) : (Size.exact value).rank < Size.infinity.rank :=
    WithBot.coe_lt_coe.mpr (WithTop.coe_lt_top value)
  cases one with
  | undefined => contradiction
  | negativeInfinity =>
      cases other with
      | undefined => contradiction
      | negativeInfinity => simp [below]
      | exact value => exact (decide_eq_true (WithBot.bot_lt_coe _)).symm
      | infinity => exact (decide_eq_true (WithBot.bot_lt_coe _)).symm
  | exact value =>
      cases other with
      | undefined => contradiction
      | negativeInfinity => simp [below, rank]
      | exact second => simp [below, rank]
      | infinity => exact (decide_eq_true (within value)).symm
  | infinity =>
      cases other with
      | undefined => contradiction
      | negativeInfinity => simp [below, rank]
      | exact value => exact (decide_eq_false (within value).not_gt).symm
      | infinity => simp [below]

theorem Size.equals_eq {one other : Size} (defined : one ≠ .undefined) (also : other ≠ .undefined) :
    one.equals other = decide (one.rank = other.rank) := by
  cases one with
  | undefined => contradiction
  | negativeInfinity => cases other <;> simp_all [equals, rank]
  | exact value => cases other <;> simp_all [equals, rank, Bool.beq_eq_decide_eq]
  | infinity => cases other <;> simp_all [equals, rank]

namespace Value

/-- A kind of values of which every two compare. -/
inductive Domain where
  | texts
  | numbers
  | lists (items : Domain)

namespace Domain

/-- The values of a domain. -/
inductive Holds : Domain → Value → Prop where
  | text (text : String) : Holds .texts (.str text)
  | bool (value : Bool) : Holds .numbers (.bool value)
  | int (value : Int) : Holds .numbers (.int value)
  | float (value : Binary64) (defined : value ≠ .nan) : Holds .numbers (.float value)
  | list {domain : Domain} {items : List Value} (each : ∀ item ∈ items, Holds domain item) :
      Holds (.lists domain) (.list items)

/-- The linear order by which the values of a domain compare. -/
def Rank : Domain → Type
  | .texts => List Char
  | .numbers => WithBot (WithTop ℚ)
  | .lists domain => List domain.Rank

noncomputable instance : (domain : Domain) → LinearOrder domain.Rank
  | .texts => inferInstanceAs (LinearOrder (List Char))
  | .numbers => inferInstanceAs (LinearOrder (WithBot (WithTop ℚ)))
  | .lists domain =>
    have : LinearOrder domain.Rank := instLinearOrderRank domain
    inferInstanceAs (LinearOrder (List domain.Rank))

/-- The rank of a value of a domain. -/
def rank : (domain : Domain) → Value → domain.Rank
  | .texts => fun value => (value.text?.getD "").toList
  | .numbers => fun value => (value.size?.getD .undefined).rank
  | .lists domain => fun value => match value with
    | .list items => items.map domain.rank
    | _ => []

theorem Holds.exists_size {value : Value} (held : numbers.Holds value) :
    ∃ size, value.size? = some size ∧ size ≠ .undefined := by
  cases held with
  | bool value => exact ⟨_, rfl, nofun⟩
  | int value => exact ⟨_, rfl, nofun⟩
  | float value defined =>
      refine ⟨value.size, rfl, ?_⟩
      match value, defined with
      | .infinite true, _ => exact nofun
      | .infinite false, _ => exact nofun
      | .finite .., _ => exact nofun

/-- Two values compare as their ranks do. -/
structure RankTells (domain : Domain) (one other : Value) : Prop where
  below : below? one other = some (decide (domain.rank one < domain.rank other))
  equal : equal one other = decide (domain.rank one = domain.rank other)

theorem rankTells_texts (one other : String) : RankTells .texts (.str one) (.str other) where
  below := by
    refine congrArg some (Bool.eq_iff_iff.mpr ?_)
    rw [textBelow_iff, decide_eq_true_iff]
    rfl
  equal := by
    refine Bool.eq_iff_iff.mpr ?_
    rw [decide_eq_true_iff]
    exact beq_iff_eq.trans String.toList_inj.symm

theorem rank_numbers {value : Value} {size : Size} (known : value.size? = some size) :
    numbers.rank value = size.rank :=
  congrArg (fun size => (size.getD .undefined).rank) known

theorem rankTells_numbers {one other : Value} (own : numbers.Holds one)
    (next : numbers.Holds other) :
    RankTells .numbers one other := by
  obtain ⟨first, known, defined⟩ := own.exists_size
  obtain ⟨second, also, apart⟩ := next.exists_size
  have bySize : below? one other = other.size?.map first.below ∧
      equal one other = other.size?.any first.equals := by
    cases own with
    | bool => exact Option.some.inj known ▸ ⟨rfl, rfl⟩
    | int => exact Option.some.inj known ▸ ⟨rfl, rfl⟩
    | float => exact Option.some.inj known ▸ ⟨rfl, rfl⟩
  constructor
  · rw [bySize.1, rank_numbers known, rank_numbers also, also, Option.map_some,
      Size.below_eq defined apart]
    rfl
  · rw [bySize.2, rank_numbers known, rank_numbers also, also, Option.any_some,
      Size.equals_eq defined apart]
    rfl

/-- Lists compare as the lists of their ranks, where their items do. -/
theorem rankTells_lists {domain : Domain} {items others : List Value}
    (each : ∀ item ∈ items, ∀ other ∈ others, RankTells domain item other) :
    RankTells (.lists domain) (.list items) (.list others) := by
  suffices both : itemsBelow? items others =
        some (decide (items.map domain.rank < others.map domain.rank)) ∧
      equalItems items others = decide (items.map domain.rank = others.map domain.rank) from
    ⟨both.1.trans (congrArg some (decide_eq_decide.mpr Iff.rfl)),
      both.2.trans (decide_eq_decide.mpr Iff.rfl)⟩
  induction items generalizing others with
  | nil => cases others <;> simp [itemsBelow?, equalItems]
  | cons item items induction =>
      cases others with
      | nil => simp [itemsBelow?, equalItems]
      | cons other others =>
          have own := each item List.mem_cons_self other List.mem_cons_self
          obtain ⟨below, equal⟩ := @induction others fun one inside two within =>
            each one (List.mem_cons_of_mem _ inside) two (List.mem_cons_of_mem _ within)
          rw [itemsBelow?, equalItems, own.equal, own.below, below, equal,
            List.map_cons, List.map_cons]
          -- The first items decide, unless they have one rank.
          by_cases same : domain.rank item = domain.rank other
          · simp [same]
          · simp [same, List.cons_lt_cons_iff]

theorem rankTells {domain : Domain} {one other : Value} (own : domain.Holds one)
    (next : domain.Holds other) : RankTells domain one other := by
  induction domain generalizing one other with
  | texts =>
      cases own
      cases next
      exact rankTells_texts _ _
  | numbers => exact rankTells_numbers own next
  | lists domain induction =>
      cases own with
      | list each =>
          cases next with
          | list also =>
              exact rankTells_lists fun item inside other within =>
                induction (each item inside) (also other within)

theorem notAbove_iff_rank_le {domain : Domain} {one other : Value} (own : domain.Holds one)
    (next : domain.Holds other) : NotAbove one other ↔ domain.rank one ≤ domain.rank other :=
  notAbove_iff_le (rankTells own next).below (rankTells next own).below

/-- Of the values of a domain, every two compare, and the order of ranks carries on. -/
theorem ranked {domain : Domain} {items : List Value} (held : ∀ item ∈ items, domain.Holds item) :
    Ranked items where
  compares one own other next := by
    rw [compare?, (rankTells (held other next) (held one own)).below,
      (rankTells (held one own) (held other next)).below]
    exact ⟨_, rfl⟩
  trans one own other next last third := by
    rw [notAbove_iff_rank_le (held one own) (held other next),
      notAbove_iff_rank_le (held other next) (held last third),
      notAbove_iff_rank_le (held one own) (held last third)]
    exact le_trans

end Domain

end Value

end ApiCompiler
