import SalesDesk.Analysis.Tables
import SalesDesk.Proofs.Value.Written

/-! Titles of rankings. One that is not given names the limit, which can be too long to write. -/
namespace SalesDesk

variable {style : RankingStyle} {limit : Int}

namespace RankingStyle

/-- Can the title of a ranking be written? A ranking of records does not take the one given. -/
def IsTitled (style : RankingStyle) (grouping : Option Grouping) : Prop :=
  grouping.isSome = true ∧ style.title.isSome = true ∨ Number.isWritable style.limit = true

theorem range_of_isWritable (h : Number.isWritable style.limit = true) :
    style.range = .ok style.rangeText := Number.written_of_isWritable h _

variable {grouping : Grouping}

theorem exists_groupTitle (h : style.IsTitled (some grouping)) (measure : Measure) :
    ∃ title, style.groupTitle grouping measure = .ok title := by
  unfold groupTitle
  cases htitle : style.title with
  | some title => exact ⟨title, rfl⟩
  | none =>
    have hlimit : Number.isWritable style.limit = true := by simpa [IsTitled, htitle] using h
    rw [range_of_isWritable hlimit]
    exact ⟨_, rfl⟩

theorem groupTitle_eq_error (h : ¬style.IsTitled (some grouping)) (measure : Measure) :
    style.groupTitle grouping measure = .error (.tooManyDigits none) := by
  obtain ⟨htitle, hlimit⟩ : style.title = none ∧ Number.isWritable style.limit = false := by
    simpa [IsTitled] using h
  rw [groupTitle, htitle, range, Number.written_of_not_isWritable hlimit]
  rfl

end RankingStyle

theorem topTitle_of_isWritable (h : Number.isWritable limit = true) (subject : String) :
    topTitle limit subject = .ok (RankingStyle.rangeText { limit } ++ " " ++ subject) := by
  have hrange : RankingStyle.range { limit } = .ok (RankingStyle.rangeText { limit }) :=
    RankingStyle.range_of_isWritable h
  rw [topTitle, hrange]
  rfl

section
variable {α : Type} [Figure α] {rows : List (Record α)} {dimension : Option Dimension}

theorem transactionRanking_of_isWritable (h : Number.isWritable style.limit = true) :
    transactionRanking rows style dimension = .ok (topTransactions rows style dimension) := by
  unfold transactionRanking
  split
  · rfl
  · exact Number.written_of_isWritable h _

theorem transactionRanking_eq_error (hne : rows ≠ []) (htitle : style.title = none)
    (h : Number.isWritable style.limit = false) :
    transactionRanking rows style dimension = .error (.tooManyDigits none) := by
  have hrows : rows.isEmpty = false := by simpa using hne
  rw [transactionRanking, hrows, RankingStyle.ownTitle?, htitle]
  exact Number.written_of_not_isWritable h _

theorem givesOnly_transactionRanking :
    GivesOnly (transactionRanking rows style dimension)
      (· = topTransactions rows style dimension) := by
  unfold transactionRanking
  split
  · exact givesOnly_ok rfl
  · exact Number.givesOnly_written rfl

end

end SalesDesk
