import JinieServer.Proofs.Path
import JinieServer.Proofs.Text.Percent
import JinieServer.Url.Workspace

/-!
# The URL of a workspace folder

The URL that is made of a folder leads back to the folder. Its path may be written otherwise, with
fewer slashes and dots, but the names on the way are the same.
-/

namespace JinieServer.Url

open JinieServer.Text

/-- The names on the way to a folder. -/
def parts (folder : List UInt8) : List (List UInt8) :=
  (folder.splitOn Path.slash).filter fun part => part ≠ [] && part ≠ [0x2e]

theorem parts_slash (rest : List UInt8) : parts (Path.slash :: rest) = parts rest := by
  simp [parts, List.splitOn_cons_eq_if_modifyHead]

theorem parts_ite (slashed : Bool) (folder : List UInt8) :
    parts (if slashed then folder ++ [Path.slash] else folder) = parts folder := by
  cases slashed with
  | false => rfl
  | true => simp [parts, List.splitOn_append_cons_self]

theorem parts_intercalate (folder : List UInt8) :
    parts ([Path.slash].intercalate (parts folder)) = parts folder := by
  by_cases hnone : parts folder = []
  · rw [hnone]
    rfl
  · have hpieces : ∀ part ∈ parts folder, Path.slash ∉ part := fun part hpart =>
      Path.not_mem_of_mem_splitOn (List.mem_of_mem_filter hpart)
    rw [parts, List.splitOn_intercalate _ hpieces hnone, List.filter_eq_self]
    exact fun part hpart => (List.mem_filter.mp hpart).2

theorem parts_of_folder? (segments : List (List Char)) (h : segments ≠ []) :
    ∃ folder, folder? ⟨fileScheme, some {}, .segments segments, none, none⟩ = some folder ∧
      parts folder =
        parts (segments.flatMap fun segment => Path.slash :: unescapeBytes segment) := by
  cases segments with
  | nil => exact absurd rfl h
  | cons first more => exact ⟨_, rfl, parts_ite _ _⟩

theorem exists_folder?_ofFolder (folder : List UInt8) :
    ∃ again, folder? (ofFolder folder) = some again ∧ parts again = parts folder := by
  by_cases hnone : parts folder = []
  · have hroot : ofFolder folder = ⟨fileScheme, some {}, .segments [[]], none, none⟩ := by
      rw [ofFolder, ← parts, hnone]
      rfl
    refine ⟨[Path.slash], by rw [hroot]; rfl, ?_⟩
    rw [hnone]
    rfl
  · have hsegments : ofFolder folder = ⟨fileScheme, some {},
        .segments ((parts folder).map (escapeBytes isSegmentChar)), none, none⟩ := by
      rw [ofFolder, ← parts]
      simp [hnone]
    obtain ⟨again, hagain, hparts⟩ :=
      parts_of_folder? ((parts folder).map (escapeBytes isSegmentChar)) (by simpa using hnone)
    refine ⟨again, by rw [hsegments, hagain], ?_⟩
    have hread : ∀ part, unescapeBytes (escapeBytes isSegmentChar part) = part :=
      unescapeBytes_escapeBytes (by decide)
    rw [hparts, List.flatMap_map]
    simp only [hread]
    rw [Path.flatMap_cons_eq_intercalate hnone, parts_slash, parts_intercalate]

end JinieServer.Url
