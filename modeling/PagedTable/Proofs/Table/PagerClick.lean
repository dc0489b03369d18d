import PagedTable.Proofs.Table.Display

/-! # Clicks on the pager bar

The bar is only ever patched, and yet it is the bar of the page on display. All
that is not disabled in it leads to a page that there is. -/

namespace PagedTable

/-- The page an entry leads to is the one that a click asks for. -/
theorem Table.pageOf?_of_leadsTo {table : Table} {entry : PagerEntry} {goal : Nat}
    (leads : entry.LeadsTo table.page goal) : table.pageOf? entry = some goal := by
  cases entry with
  | previous disabled =>
      rcases leads with ⟨rfl, before⟩
      change some (table.page - 1) = some goal
      rw [← before, Nat.add_sub_cancel]
  | page number active =>
      cases leads
      rfl
  | dots => exact leads.elim
  | next disabled =>
      rcases leads with ⟨rfl, rfl⟩
      rfl

namespace Table

theorem isSome_pageOf? (table : Table) (entry : PagerEntry) :
    (table.pageOf? entry).isSome = !entry.isDisabled := by
  rcases entry with (_ | _) | ⟨number, active⟩ | _ | (_ | _) <;> rfl

theorem clickPager_eq (table : Table) (entry : PagerEntry) :
    table.clickPager entry =
      ((table.pageOf? entry).isSome, ((table.pageOf? entry).map table.setPage).getD table) := by
  unfold clickPager
  cases table.pageOf? entry <;> rfl

/-- Entries of a bar lead to where they say. -/
theorem UpToDate.clickPager_leadsTo {table : Table} (upToDate : table.UpToDate)
    (ignores : table.FilterIgnoresCells) {entry : PagerEntry}
    (member : entry ∈ table.paging.bar table.options.showDots)
    (enabled : entry.isDisabled = false) :
    entry.LeadsTo table.page (table.clickPager entry).2.page ∧
      (table.clickPager entry).2.ShowsPage table (table.clickPager entry).2.page := by
  rw [upToDate.paging] at member
  rcases Paging.exists_leadsTo member enabled with ⟨goal, leads, numbered, within⟩
  rw [← upToDate.paging] at leads within
  rw [← upToDate.page_eq_current] at leads
  rw [clickPager_eq, pageOf?_of_leadsTo leads]
  change entry.LeadsTo table.page (table.setPage goal).page ∧
    (table.setPage goal).ShowsPage table (table.setPage goal).page
  rw [upToDate.page_setPage numbered within]
  exact ⟨leads, upToDate.setPage_showsPage ignores numbered within⟩

/-- Once anything has been shown, the bar can be trusted. Where an entry leads is certain
as long as no filter looks at the cells that are filled on the way. -/
theorem pager_trusted (options : TableOptions) (hooks : Hooks) (operations : List Operation)
    (refreshed : (run { options, hooks } operations).WasRefreshed = true) :
    let table := run { options, hooks } operations
    table.bar = table.paging.bar table.options.showDots ∧
      ∀ entry ∈ table.bar,
        let click := table.perform (.clickPager entry)
        click.1 = .done (!entry.isDisabled) ∧
          (entry.isDisabled = false → table.FilterIgnoresCells →
            entry.LeadsTo table.page click.2.page ∧
              click.2.ShowsPage table click.2.page) := by
  intro table
  have standing : table.Standing := standing_run_new options hooks operations
  cases standing with
  | fresh silent filtered paging =>
      rw [silent] at refreshed
      cases refreshed
  | shown known pageCount bar upToDate =>
      refine ⟨bar, fun entry member => ⟨?_, fun enabled ignores => ?_⟩⟩
      · change Reply.done (table.clickPager entry).1 = _
        rw [clickPager_eq, isSome_pageOf?]
      · rw [bar] at member
        exact (upToDate ignores).clickPager_leadsTo ignores member enabled

/-- A click back to the first of two pages, in the middle of a drag. -/
theorem pager_trusted_tour :
    let table := run {} tour
    let click := table.perform (.clickPager (.previous false))
    table.WasRefreshed = true ∧ table.FilterIgnoresCells ∧ .previous false ∈ table.bar ∧
      table.page = 2 ∧ click.1 = .done true ∧
      PagerEntry.LeadsTo (.previous false) table.page click.2.page ∧
      click.2.ShowsPage table click.2.page ∧
      click.2.pageIds = [.number 1, .number 3, .number 4] := by
  have refreshed : (run {} tour).WasRefreshed = true := by decide +kernel
  have member : PagerEntry.previous false ∈ (run {} tour).bar := by decide +kernel
  rcases (pager_trusted {} {} tour refreshed).2 _ member with ⟨effective, followed⟩
  rcases followed rfl filterIgnoresCells_run_tour with ⟨leads, shows⟩
  exact ⟨refreshed, filterIgnoresCells_run_tour, member, by decide +kernel, effective, leads,
    shows, by decide +kernel⟩

/-- Of two pages only one is left once the rows of the first have been shown, and
a click on the second stays on the first. -/
theorem click_stays_unseen_only :
    let table := run {} unseenOnly
    let click := table.perform (.clickPager (.page 2 false))
    table.WasRefreshed = true ∧ .page 2 false ∈ table.bar ∧ click.1 = .done true ∧
      click.2.page = 1 ∧ ¬ PagerEntry.LeadsTo (.page 2 false) table.page click.2.page := by
  refine ⟨by decide +kernel, by decide +kernel, by decide +kernel, by decide +kernel, ?_⟩
  intro leads
  have page : (run {} unseenOnly |>.perform (.clickPager (.page 2 false))).2.page = 1 := by
    decide +kernel
  rw [page] at leads
  cases leads

end Table

end PagedTable
