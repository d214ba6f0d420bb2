import Conformance.Proofs.Failing
import Conformance.Url.Read

/-!
# The paths of URLs that were read

Only a URL whose scheme is none of the web and not that of files can have a path without structure.

## Main statements

- `Url.segments_of_parse` — the path of any other URL has segments
-/

namespace Conformance.Url

/-- The URL has this scheme, and its path has segments. -/
def HasSegments (scheme : String) (u : Url) : Prop :=
  u.scheme = scheme ∧ ∃ list, u.path = .segments list

theorem hasSegments_of_parseAuthority {scheme : String} {cs : List Char} {u : Url}
    (h : parseAuthority scheme cs = .ok u) : u.HasSegments scheme := by
  -- every part may fail, and what is made at the end is made of segments
  unfold parseAuthority at h
  extract_lets special at h
  split at h
  extract_lets afterUser at h
  have huser : afterUser () = .ok u := by
    split at h
    · split at h
      · exact ok_of_guard h
      · exact h
    · exact h
  unfold afterUser at huser
  split at huser
  split at huser
  extract_lets afterHost afterName at huser
  have hname : afterName () = .ok u := ok_of_guard huser
  have hhost : ∃ host, afterHost host = .ok u := by
    unfold afterName at hname
    split at hname
    · obtain ⟨host, -, h⟩ := bind_eq_ok hname
      exact ⟨host, h⟩
    · obtain ⟨host, -, h⟩ := bind_eq_ok hname
      exact ⟨host, h⟩
  obtain ⟨host, hhost⟩ := hhost
  unfold afterHost at hhost
  extract_lets bare afterPort afterColon at hhost
  have hcolon : afterColon () = .ok u := ok_of_guard hhost
  have hport : ∃ x, afterPort x = .ok u := by
    unfold afterColon at hcolon
    split at hcolon
    · obtain ⟨x, -, h⟩ := bind_eq_ok hcolon
      exact ⟨x, h⟩
    · obtain ⟨x, -, h⟩ := bind_eq_ok hcolon
      exact ⟨x, h⟩
  obtain ⟨x, hport⟩ := hport
  unfold afterPort at hport
  split at hport
  extract_lets afterAll at hport
  have hall : afterAll () = .ok u := ok_of_guard hport
  cases hall
  exact ⟨rfl, _, rfl⟩

theorem hasSegments_fileUrl (host : Host) (cs : List Char) : (fileUrl host cs).HasSegments "file" :=
  ⟨rfl, _, rfl⟩

theorem hasSegments_of_parseFile {cs : List Char} {u : Url} (h : parseFile cs = .ok u) :
    u.HasSegments "file" := by
  unfold parseFile at h
  split at h
  · cases h
    exact hasSegments_fileUrl ..
  · dsimp only at h
    split at h
    · cases h
      exact hasSegments_fileUrl ..
    split at h
    · cases h
      exact hasSegments_fileUrl ..
    · obtain ⟨parsed, -, h⟩ := bind_eq_ok h
      cases h
      exact hasSegments_fileUrl ..

/-- The path of a URL of the web, or of a file, has segments. -/
theorem segments_of_parse {text : String} {u : Url} (h : parse text = .ok u)
    (hspecial : isSpecial u.scheme = true) : ∃ list, u.path = .segments list := by
  unfold parse at h
  dsimp only at h
  split at h
  · cases h
  · rename_i scheme rest _
    split at h
    · exact (hasSegments_of_parseFile h).2
    split at h
    · exact (hasSegments_of_parseAuthority h).2
    · rename_i hother
      -- any other scheme stays as it was written
      have hscheme : u.scheme = scheme := by
        split at h
        · exact (hasSegments_of_parseAuthority h).1
        · cases h
          rfl
        · cases h
          rfl
      rw [hscheme] at hspecial
      exact absurd hspecial hother

end Conformance.Url
