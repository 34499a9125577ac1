/-
Sidecars are read back.

Both records are plain, and their fields hold what fits a word, or a lane in the size of a
workgroup. So each is read back from its own text, and from every text that names the same values:
with the members in any order, with white space between the tokens, and with members that the
record does not know (`Schema.Written`).
-/
import GridDispatch.Proofs.SidecarRecords

set_option autoImplicit false

namespace GridDispatch

open Sidecar

/-- Every field fits the word it is kept in. -/
structure ProgramInfo.Fits (info : ProgramInfo) : Prop where
  minMemorySize : info.minMemorySize < word
  setSize : info.setSize < word
  workgroupSize : info.workgroupSize.x < lane ∧ info.workgroupSize.y < lane
    ∧ info.workgroupSize.z < lane

structure Stats.Fits (stats : Stats) : Prop where
  workgroups : stats.workgroups < word
  coroutines : stats.coroutines < word
  resumptions : stats.resumptions < word

theorem infoSchema_plain : infoSchema.Plain :=
  ⟨by decide, by decide⟩

theorem statsSchema_plain : statsSchema.Plain :=
  ⟨by decide, by decide⟩

theorem ProgramInfo.Fits.holds {info : ProgramInfo} (h : info.Fits) :
    infoSchema.Holds info.toFields :=
  .cons ⟨rfl, h.minMemorySize⟩ (.cons ⟨rfl, trivial⟩ (.cons ⟨rfl, h.setSize⟩
    (.cons ⟨rfl, h.workgroupSize⟩ .nil)))

theorem Stats.Fits.holds {stats : Stats} (h : stats.Fits) : statsSchema.Holds stats.toFields :=
  .cons ⟨rfl, h.workgroups⟩ (.cons ⟨rfl, h.coroutines⟩ (.cons ⟨rfl, h.resumptions⟩ .nil))

/-- A record is read back from its own text, and from every text with the same values. -/
structure RoundTrips {α : Type} (schema : Schema) (toFields : α → List FieldValue)
    (write : α → String) (read : String → Except Problem α) (record : α) : Prop where
  read_write : read (write record) = .ok record
  read_written : ∀ text : String, schema.Written (toFields record) text.toList →
    read text = .ok record

theorem ProgramInfo.ofSidecar_written {info : ProgramInfo} (h : info.Fits) {text : String}
    (htext : infoSchema.Written info.toFields text.toList) :
    ProgramInfo.ofSidecar text = .ok info := by
  have hread := Schema.read_written infoSchema_plain h.holds htext
  simp only [ProgramInfo.ofSidecar, hread]
  rfl

theorem Stats.ofSidecar_written {stats : Stats} (h : stats.Fits) {text : String}
    (htext : statsSchema.Written stats.toFields text.toList) :
    Stats.ofSidecar text = .ok stats := by
  have hread := Schema.read_written statsSchema_plain h.holds htext
  simp only [Stats.ofSidecar, hread]
  rfl

/-- Both records are read back. -/
theorem sidecars_roundTrip (info : ProgramInfo) (stats : Stats) (hinfo : info.Fits)
    (hstats : stats.Fits) :
    RoundTrips infoSchema ProgramInfo.toFields ProgramInfo.toSidecar ProgramInfo.ofSidecar info
      ∧ RoundTrips statsSchema Stats.toFields Stats.toSidecar Stats.ofSidecar stats := by
  refine ⟨⟨?_, fun _ htext => ProgramInfo.ofSidecar_written hinfo htext⟩,
    ⟨?_, fun _ htext => Stats.ofSidecar_written hstats htext⟩⟩
  · apply ProgramInfo.ofSidecar_written hinfo
    rw [ProgramInfo.toSidecar, String.toList_ofList]
    exact Schema.written_write infoSchema_plain hinfo.holds
  · apply Stats.ofSidecar_written hstats
    rw [Stats.toSidecar, String.toList_ofList]
    exact Schema.written_write statsSchema_plain hstats.holds

/-- A text with the members in another order, white space around them, and a note. -/
def noted : String :=
  "\x7b\"note\": [null, \x7b\"x\" : -1.5e3\x7d], \"workgroup_size\":[4, 2 ,1],\n"
    ++ "\"desc_set_size\" :24 , \"has_cbarriers\": true,\"min_memory_size\":64\x7d\n"

def notedInfo : ProgramInfo :=
  ⟨64, true, 24, ⟨4, 2, 1⟩⟩

def notedMembers : List Member :=
  [⟨[], "note".toList, [], [' '], "[null, \x7b\"x\" : -1.5e3\x7d]".toList, []⟩,
    ⟨[' '], "workgroup_size".toList, [], [], "[4, 2 ,1]".toList, []⟩,
    ⟨['\n'], "desc_set_size".toList, [' '], [], "24".toList, [' ']⟩,
    ⟨[' '], "has_cbarriers".toList, [], [' '], "true".toList, []⟩,
    ⟨[], "min_memory_size".toList, [], [], "64".toList, []⟩]

theorem valueText_note : ValueText "[null, \x7b\"x\" : -1.5e3\x7d]".toList := by
  have hnumber : ValueText ('-' :: (['1'] ++ ['.', '5'] ++ ['e', '3'])) :=
    .negative (.mk (.digits rfl (by decide) (by decide)) (.digits rfl (by decide))
      (.digits (.inl rfl) (.inl rfl) rfl (by decide)))
  have hname : Quoted ['x'] := .plain (by decide) (by decide) (by decide) .nil
  have hobject : ValueText "\x7b\"x\" : -1.5e3\x7d".toList :=
    @ValueText.object ⟨[], ['x'], [' '], [' '], "-1.5e3".toList, []⟩ [] (by decide)
      (List.forall_mem_singleton.mpr hname) (List.forall_mem_singleton.mpr hnumber)
  exact @ValueText.list ⟨[], "null".toList, []⟩
    [⟨[' '], "\x7b\"x\" : -1.5e3\x7d".toList, []⟩] (by decide)
    (List.forall_mem_cons.mpr ⟨.null, List.forall_mem_singleton.mpr hobject⟩)

theorem memberText_noted : List.Forall₂ (MemberText infoSchema)
    [none, some (("workgroup_size", .triple), .triple ⟨4, 2, 1⟩),
      some (("desc_set_size", .count), .count 24), some (("has_cbarriers", .flag), .flag true),
      some (("min_memory_size", .count), .count 64)] notedMembers := by
  have hsize : FieldText (.triple ⟨4, 2, 1⟩) "[4, 2 ,1]".toList :=
    @FieldText.triple ⟨4, 2, 1⟩ ⟨[], ['4'], []⟩ ⟨[' '], ['2'], [' ']⟩ ⟨[], ['1'], []⟩
      ⟨by decide, by decide⟩ ⟨by decide, by decide⟩ ⟨by decide, by decide⟩ rfl rfl rfl
  refine .cons (.other (spelled_self ?_) ?_ valueText_note)
    (.cons (.known (spelled_self ?_) hsize) (.cons (.known (spelled_self ?_) (.count 24))
      (.cons (.known (spelled_self ?_) .yes) (.cons (.known (spelled_self ?_) (.count 64)) .nil))))
  all_goals decide

theorem written_noted : infoSchema.Written notedInfo.toFields noted.toList := by
  have htext : noted.toList = [] ++ '\x7b' ::
      (commaSeparated (notedMembers.map fun member => member.item.text) ++ '\x7d' :: ['\n']) := by
    decide +kernel
  rw [htext]
  exact .mk (by decide) (by decide) (by decide) memberText_noted (by decide)

/-- So a record is read from a text in any order, and greatest values are read back. -/
theorem sidecars_roundTrip_noted : notedInfo.Fits ∧ Stats.Fits ⟨word - 1, 0, word - 1⟩
    ∧ ProgramInfo.ofSidecar noted = .ok notedInfo
    ∧ Stats.ofSidecar (Stats.toSidecar ⟨word - 1, 0, word - 1⟩)
      = .ok ⟨word - 1, 0, word - 1⟩ := by
  have hinfo : notedInfo.Fits := ⟨by decide, by decide, by decide⟩
  have hstats : Stats.Fits ⟨word - 1, 0, word - 1⟩ := ⟨by decide, by decide, by decide⟩
  obtain ⟨hread, hwrite⟩ := sidecars_roundTrip notedInfo ⟨word - 1, 0, word - 1⟩ hinfo hstats
  exact ⟨hinfo, hstats, hread.read_written noted written_noted, hwrite.read_write⟩

end GridDispatch
