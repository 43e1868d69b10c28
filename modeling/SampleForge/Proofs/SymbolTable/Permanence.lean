import SampleForge.Proofs.SymbolTable.History

/-!
# Nicknames are permanent

A reservation records only types that were unknown before it, so a nickname that has been handed
out never changes.  `Keeps` says what any history keeps of a table (`keeps_run`): its entries in
their places, its imports, and every nickname.

A type is known once it has been reserved, and a reservation of a known type changes nothing but
the count of the requests (`reserve_of_nickname`).
-/

namespace SampleForge.SymbolTable

/-- What one table keeps of another. -/
structure Keeps (before after : SymbolTable) : Prop where
  /-- The entries stay where they are, and new ones come behind them. -/
  entries : before.entries <+: after.entries
  /-- No import statement is lost. -/
  imports : ∀ statement ∈ before.imports, statement ∈ after.imports
  /-- No nickname changes. -/
  nicknames : ∀ t nickname, before.nickname? t = some nickname →
    after.nickname? t = some nickname

namespace Keeps

theorem refl (table : SymbolTable) : table.Keeps table :=
  ⟨List.prefix_refl _, fun _ h => h, fun _ _ h => h⟩

theorem trans {first second third : SymbolTable} (h : first.Keeps second)
    (h' : second.Keeps third) : first.Keeps third where
  entries := h.entries.trans h'.entries
  imports := fun statement hmem => h'.imports statement (h.imports statement hmem)
  nicknames := fun t nickname hfound => h'.nicknames t nickname (h.nicknames t nickname hfound)

/-- A new entry keeps the nicknames of all types that were known at a time when its own was not.
This may be a time before the entry of its element. -/
theorem record {before table : SymbolTable} (h : before.Keeps table) {t : TypeRef}
    (hnew : t.identity ∉ before.known) (nickname : String) :
    before.Keeps (table.record t nickname) where
  entries := h.entries.trans (List.prefix_append _ _)
  imports := fun statement hmem => NameSet.mem_insertAll.2 (.inr (h.imports statement hmem))
  nicknames := by
    intro u name hfound
    have hne : t.identity ≠ u.identity := fun heq => hnew (heq ▸ mem_known_of_nickname hfound)
    rw [nickname?_record_of_ne _ _ hne]
    exact h.nicknames u name hfound

theorem plus {before table : SymbolTable} (h : before.Keeps table) (names : List String) :
    before.Keeps (table.plus names) where
  entries := h.entries
  imports := fun statement hmem => NameSet.mem_insertAll.2 (.inr (h.imports statement hmem))
  nicknames := h.nicknames

end Keeps

/-! ## Reservations -/

theorem Reserves.keeps {table after : SymbolTable} {t : TypeRef} {nickname : String}
    (h : Reserves table t nickname after) : table.Keeps after := by
  induction h with
  | known _ => exact Keeps.refl table
  | leaf hnew _ => exact (Keeps.refl table).record (t := .leaf _ _) hnew _
  | collection hnew _ _ ih => exact ih.record (t := .collection _ _) hnew _

/-- What is reserved is found. -/
theorem Reserves.nickname?_eq {table after : SymbolTable} {t : TypeRef} {nickname : String}
    (h : Reserves table t nickname after) : after.nickname? t = some nickname := by
  cases h with
  | known hfound => exact hfound
  | leaf _ _ => exact nickname?_record_self _ _ rfl
  | collection _ _ _ => exact nickname?_record_self _ _ rfl

theorem keeps_reserve (table : SymbolTable) (t : TypeRef) : table.Keeps (table.reserve t).2 := by
  obtain ⟨hentries, himports, hnicknames⟩ :=
    (reserves_assign { table with requests := table.requests + 1 } t).keeps
  exact ⟨hentries, himports, hnicknames⟩

theorem nickname?_reserve (table : SymbolTable) (t : TypeRef) :
    (table.reserve t).2.nickname? t = some (table.reserve t).1 :=
  (reserves_assign { table with requests := table.requests + 1 } t).nickname?_eq

/-- A reservation of a known type gives its nickname, and only the request is counted. -/
theorem reserve_of_nickname {table : SymbolTable} {t : TypeRef} {nickname : String}
    (h : table.nickname? t = some nickname) :
    table.reserve t = (nickname, { table with requests := table.requests + 1 }) := by
  have hcounted : ({ table with requests := table.requests + 1 } : SymbolTable).nickname? t =
      some nickname := h
  rw [reserve]
  cases t with
  | leaf kind identity => rw [assign, hcounted]
  | collection identity element => rw [assign, hcounted]

/-- A look-up does not tell references with one identity apart. -/
theorem nickname?_congr (table : SymbolTable) {t u : TypeRef} (h : u.sameAs t = true) :
    table.nickname? u = table.nickname? t := by
  have hidentity : u.identity = t.identity := TypeRef.sameAs_iff.1 h
  simp only [nickname?, TypeRef.sameAs, hidentity]

/-! ## Histories -/

theorem keeps_reserveAll (table : SymbolTable) (types : List TypeRef) :
    table.Keeps (table.reserveAll types) := by
  induction types generalizing table with
  | nil => exact Keeps.refl table
  | cons t rest ih => exact (keeps_reserve table t).trans (ih (table.reserve t).2)

theorem keeps_run (table : SymbolTable) (calls : List Call) : table.Keeps (table.run calls) := by
  rw [run_eq]
  exact (keeps_reserveAll table _).plus _

/-- Whatever is called on a table, its entries, imports and nicknames stay.  A type is known by its
nickname as soon as it is reserved, and at any later time another reservation of it, in whichever
form, gives this nickname and only counts the request. -/
theorem nickname_permanent (table : SymbolTable) (calls : List Call) :
    table.Keeps (table.run calls) ∧
      ∀ t, (table.reserve t).2.nickname? t = some (table.reserve t).1 ∧
        (table.reserve t).2.requests = table.requests + 1 ∧
        ∀ u, u.sameAs t = true →
          let later := (table.reserve t).2.run calls
          later.reserve u =
            ((table.reserve t).1, { later with requests := later.requests + 1 }) := by
  refine ⟨keeps_run table calls, fun t => ⟨nickname?_reserve table t, requests_reserve table t, ?_⟩⟩
  intro u hsame later
  have hfound : later.nickname? t = some (table.reserve t).1 :=
    (keeps_run _ calls).nicknames t _ (nickname?_reserve table t)
  exact reserve_of_nickname ((later.nickname?_congr hsame).trans hfound)

end SampleForge.SymbolTable
