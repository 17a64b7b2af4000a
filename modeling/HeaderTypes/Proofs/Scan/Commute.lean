import HeaderTypes.Proofs.Registry.Weakening
import HeaderTypes.Proofs.Scan.Reach

namespace HeaderTypes

namespace Stats

instance : Zero Stats := ⟨{}⟩

/-- What a header that is scanned to its end counts besides its structs. -/
def ofHeader : Stats := { headersScanned := 1 }

/-- What was counted in two parts of a scan, taken together. -/
instance : Add Stats where
  add a b :=
    { headersScanned := a.headersScanned + b.headersScanned
      structsRegistered := a.structsRegistered + b.structsRegistered
      structsCompatible := a.structsCompatible + b.structsCompatible
      structsSkipped := a.structsSkipped + b.structsSkipped
      signaturesRegistered := a.signaturesRegistered + b.signaturesRegistered
      syntaxErrors := a.syntaxErrors + b.syntaxErrors }

theorem add_zero (a : Stats) : a + 0 = a := rfl

theorem add_assoc (a b c : Stats) : a + b + c = a + (b + c) := by
  simp only [HAdd.hAdd, Add.add, mk.injEq]
  exact ⟨Nat.add_assoc .., Nat.add_assoc .., Nat.add_assoc .., Nat.add_assoc .., Nat.add_assoc ..,
    Nat.add_assoc ..⟩

theorem add_comm (a b : Stats) : a + b = b + a := by
  simp only [HAdd.hAdd, Add.add, mk.injEq]
  exact ⟨Nat.add_comm .., Nat.add_comm .., Nat.add_comm .., Nat.add_comm .., Nat.add_comm ..,
    Nat.add_comm ..⟩

instance : Std.Associative (α := Stats) (· + ·) := ⟨add_assoc⟩

instance : Std.Commutative (α := Stats) (· + ·) := ⟨add_comm⟩

end Stats

namespace Scan
open HeaderTypes.Action HeaderTypes.TypeName Registry

/-- A scan that has more entries behind its own and has counted more. -/
def adding (scan : Scan) (entries : List Descriptor) (counted : Stats) : Scan :=
  { scan with registry := scan.registry.extend entries, stats := scan.stats + counted }

theorem adding_nil (scan : Scan) : scan.adding [] 0 = scan := by
  rw [adding, extend_nil, Stats.add_zero]

theorem adding_adding (scan : Scan) (first last : List Descriptor) (early late : Stats) :
    (scan.adding first early).adding last late = scan.adding (first ++ last) (early + late) := by
  simp only [adding, extend_extend, Stats.add_assoc]

/-- Entries that are named after some structs and entries that are not have different names. -/
theorem name_ne_of_belongsTo {extra entries : List Descriptor} {names : List String}
    (foreign : ∀ d ∈ extra, ∀ name ∈ names, ¬ BelongsTo name d.name)
    (owned : ∀ e ∈ entries, ∃ name ∈ names, BelongsTo name e.name) :
    ∀ d ∈ extra, ∀ e ∈ entries, d.name ≠ e.name := by
  intro d listed e member same
  obtain ⟨name, among, owns⟩ := owned e member
  rw [← same] at owns
  exact foreign d listed name among owns

/-- A step from one scan to another adds entries that are named after the
structs it registers, and it adds the same to every scan that has gained
entries which are not. -/
def Carries (step : Scan → Scan → Prop) (names : List String) (scan after : Scan) : Prop :=
  ∃ entries counted, after = scan.adding entries counted ∧
    (∀ d ∈ entries, ∃ name ∈ names, BelongsTo name d.name) ∧
    ∀ registry stats extra, scan.registry.Gains registry extra →
      (∀ d ∈ extra, ∀ name ∈ names, ¬ BelongsTo name d.name) →
      step { scan with registry, stats } ({ scan with registry, stats }.adding entries counted)

theorem TakesBlock.carries {scan after : Scan} {block : StructBlock} {added : List String}
    (takes : TakesBlock scan block added after) :
    Carries (fun before later => TakesBlock before block added later) added scan after := by
  cases takes with
  | skip taken =>
    refine ⟨[], { structsSkipped := 1 }, ?_, nofun, fun registry stats extra gains _ => ?_⟩
    · rw [adding, extend_nil]
      rfl
    · rw [adding, extend_nil]
      exact .skip (gains.has taken)
  | register reg =>
    refine ⟨reg.added, ⟨0, 1, if reg.compatible then 1 else 0, 0, reg.signatureFields, 0⟩, rfl,
      fun d member => ⟨_, List.mem_singleton_self _, reg.belongsTo_of_mem_added member⟩,
      fun registry stats extra gains foreign => ?_⟩
    have apart : ∀ d ∈ extra, ¬ BelongsTo block.name d.name := fun d listed =>
      foreign d listed _ (List.mem_singleton_self _)
    have same : (gains.registration reg apart).signatureFields = reg.signatureFields := by
      refine List.countP_congr fun field listed => ?_
      obtain ⟨known, canonical⟩ := reg.field_known listed
      have has : reg.registry.has field.type := by
        rw [Registration.registry, ← extend_extend]
        exact has_extend.mpr (Or.inl known)
      rw [find?_of_canonical canonical, find?_of_canonical canonical,
        (gains.registry reg apart).entry?_of_has has]
    have taken := @TakesBlock.register { scan with registry, stats } block
      (gains.registration reg apart)
    rw [registering, same, gains.compatible_eq reg apart, Registration.registry_eq,
      gains.added_eq reg apart] at taken
    exact taken

theorem Takes.carries {scan after : Scan} {findings : List Finding} {names : List String}
    (takes : Takes scan findings names after) :
    Carries (fun before later => Takes before findings names later) names scan after := by
  induction takes with
  | done =>
    refine ⟨[], 0, (adding_nil _).symm, nofun, fun registry stats extra _ _ => ?_⟩
    rw [adding_nil]
    exact .done
  | forward _ ih =>
    obtain ⟨entries, counted, same, owned, step⟩ := ih
    exact ⟨entries, counted, same, owned, fun registry stats extra gains foreign =>
      (step registry stats extra gains foreign).forward⟩
  | @block scan block added between findings names after first _ ih =>
    obtain ⟨early, earlyCount, rfl, earlyOwned, firstStep⟩ := first.carries
    obtain ⟨late, lateCount, rfl, lateOwned, lastStep⟩ := ih
    refine ⟨early ++ late, earlyCount + lateCount, adding_adding .., fun d member => ?_,
      fun registry stats extra gains foreign => ?_⟩
    · rcases List.mem_append.mp member with new | newer
      · obtain ⟨name, listed, owned⟩ := earlyOwned d new
        exact ⟨name, List.mem_append_left _ listed, owned⟩
      · obtain ⟨name, listed, owned⟩ := lateOwned d newer
        exact ⟨name, List.mem_append_right _ listed, owned⟩
    · have apart : ∀ d ∈ extra, ∀ name ∈ added, ¬ BelongsTo name d.name := fun d listed name among =>
        foreign d listed name (List.mem_append_left _ among)
      have here := firstStep registry stats extra gains apart
      have grown := gains.extend (name_ne_of_belongsTo apart earlyOwned)
      have onward := lastStep (registry.extend early) (stats + earlyCount) extra grown
        fun d listed name among => foreign d listed name (List.mem_append_right _ among)
      rw [← adding_adding]
      exact .block here onward

theorem Takes.named {scan after : Scan} {findings : List Finding} {names : List String}
    (takes : Takes scan findings names after) : ∀ name ∈ names, Text.isName name.toList := by
  induction takes with
  | done => nofun
  | forward _ ih => exact ih
  | block first _ ih =>
    intro name listed
    rcases List.mem_append.mp listed with here | later
    · cases first with
      | skip => cases here
      | register reg =>
        cases List.mem_singleton.mp here
        exact reg.named
    · exact ih name later

/-- What is named after some structs is not named after others. -/
theorem not_belongsTo_of_disjoint {entries : List Descriptor} {names names' : List String}
    (owned : ∀ d ∈ entries, ∃ name ∈ names, BelongsTo name d.name)
    (named : ∀ name ∈ names, Text.isName name.toList)
    (named' : ∀ name ∈ names', Text.isName name.toList) (disjoint : names.Disjoint names') :
    ∀ d ∈ entries, ∀ name ∈ names', ¬ BelongsTo name d.name := by
  intro d member name listed owns
  obtain ⟨owner, among, owns'⟩ := owned d member
  cases owns'.unique owns (named owner among) (named' name listed)
  exact disjoint among listed

/-- Two headers that register different structs may be scanned in either order.
Each registers what it would alone, and in the end both orders have registered
the same entries under the same names and have counted the same. -/
theorem takeHeader_comm {scan first second : Scan} {text text' origin origin' : String}
    {names names' : List String} (ends : (takeHeader text origin).Ends scan (.ok names) first)
    (ends' : (takeHeader text' origin').Ends scan (.ok names') second)
    (disjoint : names.Disjoint names') :
    ∃ last last', (takeHeader text' origin').Ends first (.ok names') last ∧
      (takeHeader text origin).Ends second (.ok names) last' ∧
      (∀ key, last.registry.entry? key = last'.registry.entry? key) ∧
      last.registry.entries.Perm last'.registry.entries ∧ last.stats = last'.stats := by
  obtain ⟨thawed, _, takes, rfl⟩ := takeHeader_ok_iff.mp ends
  obtain ⟨_, _, takes', rfl⟩ := takeHeader_ok_iff.mp ends'
  obtain ⟨entries, counted, rfl, owned, step⟩ := takes.carries
  obtain ⟨entries', counted', rfl, owned', step'⟩ := takes'.carries
  have foreign := not_belongsTo_of_disjoint owned takes.named takes'.named disjoint
  have foreign' := not_belongsTo_of_disjoint owned' takes'.named takes.named (List.disjoint_comm.mp disjoint)
  have onward := step' _ (scan.starting.adding entries counted).finishing.stats entries
    (gains_extend scan.registry entries) foreign
  have onward' := step _ (scan.starting.adding entries' counted').finishing.stats entries'
    (gains_extend scan.registry entries') foreign'
  have apart := name_ne_of_belongsTo foreign owned'
  refine ⟨_, _, takeHeader_ok_iff.mpr ⟨thawed, _, onward, rfl⟩,
    takeHeader_ok_iff.mpr ⟨thawed, _, onward', rfl⟩, fun key => ?_, ?_, ?_⟩
  · exact ((gains_extend scan.registry entries).extend apart key).trans
      (entry?_extend _ entries key).symm
  · change (scan.registry.entries ++ entries ++ entries').Perm
      (scan.registry.entries ++ entries' ++ entries)
    rw [List.append_assoc, List.append_assoc]
    exact List.perm_append_comm.append_left _
  · change scan.stats + counted + .ofHeader + counted' + .ofHeader =
      scan.stats + counted' + .ofHeader + counted + .ofHeader
    ac_rfl

/-- A struct of plain data, and a definition that is passed over. -/
def plainHeader : String := "typedef struct { int a; } a_t;\ntypedef struct { a_t z; } int;"

def pointerHeader : String := "typedef struct b { int n; void (T *f)(int x); } b_t;"

theorem takeHeader_comm_ofInt :
    ∃ first second, (takeHeader plainHeader "p").Ends ofInt (.ok ["a_t"]) first ∧
      (takeHeader pointerHeader "q").Ends ofInt (.ok ["b_t"]) second ∧
      ["a_t"].Disjoint ["b_t"] ∧
      ∃ last last', (takeHeader pointerHeader "q").Ends first (.ok ["b_t"]) last ∧
        (takeHeader plainHeader "p").Ends second (.ok ["a_t"]) last' ∧
        (∀ key, last.registry.entry? key = last'.registry.entry? key) ∧
        last.registry.entries.Perm last'.registry.entries ∧ last.stats = last'.stats := by
  have ends : (takeHeader plainHeader "p").Ends ofInt (.ok ["a_t"])
      ((takeHeader plainHeader "p").run ofInt).state := ⟨by decide +kernel, rfl⟩
  have ends' : (takeHeader pointerHeader "q").Ends ofInt (.ok ["b_t"])
      ((takeHeader pointerHeader "q").run ofInt).state := ⟨by decide +kernel, rfl⟩
  have disjoint : ["a_t"].Disjoint ["b_t"] := by simp
  exact ⟨_, _, ends, ends', disjoint, takeHeader_comm ends ends' disjoint⟩

end Scan

end HeaderTypes
