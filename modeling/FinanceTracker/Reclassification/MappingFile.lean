import FinanceTracker.Reclassification.Manifests
import FinanceTracker.Reclassification.Registry

/-!
# The mapping file

Every text of the pinned registry is ASCII, so `mapping_bytes` writes what the contracts
write, and `load_mapping` reads the registry back.
-/

namespace FinanceTracker.Reclassification.MappingFile

open List Library Json JsonText KeyedRows Sha256 SortedBy Contracts Manifests Registry

theorem uuid_not_empty (value : ℕ) : uuidText value ≠ "" := by
  intro empty
  have chars := congrArg String.toList empty
  simp [uuidText] at chars

theorem public_id_not_empty (semanticKey : String) : pinnedUuid7 semanticKey ≠ "" :=
  uuid_not_empty _

theorem uuid_ascii (value : ℕ) : ∀ char ∈ (uuidText value).toList, IsAscii char := by
  have digit : ∀ char ∈ uuidDigits value, IsAscii char := by
    intro _ member
    obtain ⟨_, _, rfl⟩ := mem_map.mp (mem_reverse.mp member)
    exact hex_digits_ascii _ (Nat.mod_lt _ (by decide))
  have part (skipped count : ℕ) : ∀ char ∈ ((uuidDigits value).drop skipped).take count, IsAscii char :=
    fun char member => digit char (mem_of_mem_drop (mem_of_mem_take member))
  have dash {rest : List Char} (ascii : ∀ char ∈ rest, IsAscii char) :
      ∀ char ∈ '-' :: rest, IsAscii char := ascii_cons (by decide) ascii
  have last : ∀ char ∈ (uuidDigits value).drop 20, IsAscii char :=
    fun char member => digit char (mem_of_mem_drop member)
  unfold uuidText
  rw [String.toList_ofList]
  exact ascii_append (ascii_append (ascii_append (ascii_append (part 0 8) (dash (part 8 4)))
    (dash (part 12 4))) (dash (part 16 4))) (dash last)

def asciiText (text : String) : Bool := text.toList.all fun char => decide (IsAscii char)

theorem proposals_printable : ∀ proposal ∈ categoryProposals ++ subcategoryProposals,
    (asciiText proposal.reasonCode = true ∧ proposal.reasonCode ≠ "") ∧
      (∀ key ∈ proposal.targetKeys, key ≠ "" ∧ asciiText key = true) ∧
        (writeInt proposal.legacyId).isSome = true := by
  decide +kernel

variable {entry : MappingEntry}

theorem registry_entry
    (member : entry ∈ mappingRegistry.categories ++ mappingRegistry.subcategories) :
    ∃ proposal ∈ categoryProposals ++ subcategoryProposals, entry = proposal.entry := by
  rcases mem_append.mp member with category | subcategory
  · obtain ⟨proposal, stored, rfl⟩ := mem_map.mp category
    exact ⟨proposal, mem_append_left _ ((mem_sorted_iff _).mp stored), rfl⟩
  · obtain ⟨proposal, stored, rfl⟩ := mem_map.mp subcategory
    exact ⟨proposal, mem_append_right _ ((mem_sorted_iff _).mp stored), rfl⟩

theorem registry_named
    (member : entry ∈ mappingRegistry.categories ++ mappingRegistry.subcategories) :
    ∀ target ∈ entry.targets, target.key ≠ "" ∧ target.publicId ≠ "" := by
  obtain ⟨proposal, stored, rfl⟩ := registry_entry member
  intro _ isTarget
  obtain ⟨key, inKeys, rfl⟩ := mem_map.mp isTarget
  exact ⟨((proposals_printable proposal stored).2.1 key inKeys).1, public_id_not_empty key⟩

theorem sorted_entries_lookup {proposals : List LegacyProposal}
    (distinct : DistinctKeys LegacyProposal.legacyId proposals) (legacyId : ℤ) :
    lookup MappingEntry.legacyId ((sortedBy LegacyProposal.legacyId proposals).map LegacyProposal.entry)
        legacyId =
      (lookup LegacyProposal.legacyId proposals legacyId).map LegacyProposal.entry := by
  have sorted := sorted_keys_nodup LegacyProposal.legacyId distinct
  apply Option.ext
  intro _
  constructor
  · intro found
    obtain ⟨member, isId⟩ := lookup_mem found
    obtain ⟨_, stored, rfl⟩ := mem_map.mp member
    rw [(lookup_iff distinct).mpr ⟨(mem_sorted_iff _).mp stored, isId⟩]
    rfl
  · intro found
    obtain ⟨_, isProposal, rfl⟩ := Option.map_eq_some_iff.mp found
    obtain ⟨stored, isId⟩ := lookup_mem isProposal
    refine (lookup_iff ?_).mpr ⟨mem_map_of_mem ((mem_sorted_iff _).mpr stored), isId⟩
    unfold DistinctKeys
    rw [map_map]
    exact sorted

theorem registry_category (legacyId : ℤ) : mappingRegistry.category legacyId =
    (lookup LegacyProposal.legacyId categoryProposals legacyId).map LegacyProposal.entry := by
  refine sorted_entries_lookup ?_ legacyId
  unfold DistinctKeys
  decide

theorem registry_subcategory (legacyId : ℤ) : mappingRegistry.subcategory legacyId =
    (lookup LegacyProposal.legacyId subcategoryProposals legacyId).map LegacyProposal.entry := by
  refine sorted_entries_lookup ?_ legacyId
  unfold DistinctKeys
  decide

theorem entry_ascii (member : entry ∈ mappingRegistry.categories ++ mappingRegistry.subcategories) :
    AsciiValue (.obj entry.asDict) := by
  obtain ⟨proposal, stored, rfl⟩ := registry_entry member
  obtain ⟨⟨reason, _⟩, keys, _⟩ := proposals_printable proposal stored
  have reasonAscii : ∀ char ∈ proposal.reasonCode.toList, IsAscii char := ascii_of_all reason
  have disposition : ∀ char ∈ proposal.disposition.value.toList, IsAscii char := by
    cases proposal.disposition <;> exact ascii_of_all (by decide)
  have targets : AsciiValue (.arr (proposal.entry.targets.map fun target => .obj target.asDict)) := by
    rw [AsciiValue, ascii_items_iff]
    intro _ inTargets
    obtain ⟨_, isTarget, rfl⟩ := mem_map.mp inTargets
    obtain ⟨key, inKeys, rfl⟩ := mem_map.mp isTarget
    exact ⟨ascii_of_all (by decide), ascii_of_all (keys key inKeys).2, ascii_of_all (by decide),
      uuid_ascii _, trivial⟩
  exact ⟨ascii_of_all (by decide), trivial, ascii_of_all (by decide), disposition,
    ascii_of_all (by decide), reasonAscii, ascii_of_all (by decide), targets, trivial⟩

theorem registry_ascii : AsciiValue (.obj mappingRegistry.asPayload) := by
  have entries {list : List MappingEntry}
      (all : ∀ entry ∈ list, entry ∈ mappingRegistry.categories ++ mappingRegistry.subcategories) :
      AsciiValue (.arr (list.map fun entry => .obj entry.asDict)) := by
    rw [AsciiValue, ascii_items_iff]
    intro _ member
    obtain ⟨entry, stored, rfl⟩ := mem_map.mp member
    exact entry_ascii (all entry stored)
  have categories := entries fun entry => mem_append_left mappingRegistry.subcategories
  have subcategories := entries fun entry => mem_append_right mappingRegistry.categories
  exact ⟨ascii_of_all (by decide), ascii_of_all (by decide), ascii_of_all (by decide),
    ascii_of_all (by decide), ascii_of_all (by decide), categories, ascii_of_all (by decide),
    subcategories, trivial⟩

theorem mapping_written : ∃ file, mappingBytes = some file := by
  have entries {list : List MappingEntry}
      (all : ∀ entry ∈ list, entry ∈ mappingRegistry.categories ++ mappingRegistry.subcategories) :
      ShortInts (.arr (list.map fun entry => .obj entry.asDict)) := by
    rw [ShortInts, short_items_iff]
    intro value member
    obtain ⟨entry, stored, rfl⟩ := mem_map.mp member
    obtain ⟨proposal, isProposal, rfl⟩ := registry_entry (all entry stored)
    have targets : ShortInts (.arr (proposal.entry.targets.map fun target => .obj target.asDict)) := by
      rw [ShortInts, short_items_iff]
      intro _ inTargets
      obtain ⟨_, _, rfl⟩ := mem_map.mp inTargets
      exact ⟨trivial, trivial, trivial⟩
    exact ⟨(proposals_printable proposal isProposal).2.2, trivial, trivial, targets, trivial⟩
  have categories := entries fun entry => mem_append_left mappingRegistry.subcategories
  have subcategories := entries fun entry => mem_append_right mappingRegistry.categories
  have short : ShortInts (.obj mappingRegistry.asPayload) :=
    ⟨trivial, trivial, categories, subcategories, trivial⟩
  obtain ⟨_, written⟩ := dumps_some short
  unfold mappingBytes
  rw [dumps_ascii registry_ascii, written]
  exact ⟨_, rfl⟩

theorem mapping_bytes_canonical : mappingBytes = canonicalJson (.obj mappingRegistry.asPayload) := by
  unfold mappingBytes canonicalJson
  rw [dumps_ascii registry_ascii]

theorem mapping_sha_canonical : mappingSha256 = mappingRegistry.sha256 := by
  unfold mappingSha256 MappingRegistry.sha256
  rw [mapping_bytes_canonical]

theorem registry_covers : Covers mappingRegistry.categories 10 ∧ Covers mappingRegistry.subcategories 41 := by
  decide +kernel

theorem load_mapping_file {file : ByteArray} (written : mappingBytes = some file) :
    loadMapping file = some mappingRegistry :=
  load_mapping_written registry_covers.1 registry_covers.2 (mapping_bytes_canonical ▸ written)

theorem mapping_file_loads {file : ByteArray} (written : mappingBytes = some file) :
    loads file = some (.obj (registryObject mappingRegistry)) :=
  registry_file_loads (mapping_bytes_canonical ▸ written)

end FinanceTracker.Reclassification.MappingFile
