import Tokenry.Proofs.Location
import Tokenry.Proofs.Scan.Steps

namespace Tokenry.Table

variable {t : Table} {skip : Option Kind} {src : Source} {at_ stop : Location}
  {pieces : List Piece}

theorem Trail.tiles (ht : ∀ k ∈ t.kinds, k.Anchored src) (hs : ∀ k ∈ skip, k.Anchored src)
    (h : Trail t skip src at_ pieces stop) : Range.Tiles at_ (pieces.map (·.token.range)) stop := by
  induction h with
  | here => rfl
  | step hmove _ ih =>
    have hanchor := hmove.kind_mem.elim (ht _) (hs _)
    exact ⟨(hanchor _ _ hmove.tryMatch_eq).1, ih⟩

theorem Trail.keptTokens_eq (h : Trail t none src at_ pieces stop) :
    keptTokens pieces = pieces.map (·.token) := by
  induction h with
  | here => rfl
  | step hmove _ ih =>
    rw [keptTokens_cons, List.map_cons, ih]
    cases hmove with
    | trivia _ hk _ _ => cases hk
    | token => rfl

/-- A scan with declared kinds that takes whole matches loses nothing. The matches that it moves
over, those that it drops included, are not empty and lead from the first place to the end of the
source without a gap, so that their texts together are the source. A literal is found as it is
declared, and the texts of the tokens alone are the source if there is no skip kind. -/
theorem scan_lossless [Pattern.CharacterNames] (t : Table) (skip : Option Kind) (src : Source)
    (tokens : List Token) (ht : ∀ k ∈ t.kinds, k.DeclaredWhole) (hs : ∀ k ∈ skip, k.DeclaredWhole)
    (h : t.scan skip src = .ok tokens) :
    ∃ pieces, Trail t skip src 0 pieces src.size ∧
      tokens = keptTokens pieces ++ [⟨.eof, .empty src.size⟩] ∧
      Range.Tiles 0 (pieces.map (·.token.range)) src.size ∧
      (∀ piece ∈ pieces, piece.token.range.start < piece.token.range.stop) ∧
      String.join (pieces.map (·.token.text src)) = String.ofList src.toList ∧
      (∀ piece ∈ pieces, ∀ d, piece.token.kind.declaration = some d → d.strategy = .exact →
        piece.token.text src = d.pattern) ∧
      (skip = none → String.join (tokens.map (·.text src)) = String.ofList src.toList) := by
  obtain ⟨pieces, stop, htrail, hsize, rfl⟩ := scanFrom_eq_ok_iff.mp h
  have hmoves {piece : Piece} (hp : piece ∈ pieces) : ∃ place,
      piece.token.kind.DeclaredWhole ∧ piece.token.range.start = place ∧
      place < piece.token.range.stop ∧
      piece.token.kind.tryMatch src place = .ok (some piece.token.range) := by
    obtain ⟨_, place, -, hmove⟩ := htrail.exists_move hp
    have hwhole := hmove.kind_mem.elim (ht _) (hs _)
    exact ⟨place, hwhole, (hwhole.anchored src _ _ hmove.tryMatch_eq).1, hmove.advances,
      hmove.tryMatch_eq⟩
  have hstop := htrail.stop_le (fun k hk ↦ ((ht k hk).anchored src).wellBehaved)
    (fun k hk ↦ ((hs k hk).anchored src).wellBehaved) (Nat.zero_le _)
  obtain rfl : stop = src.size := Nat.le_antisymm hstop hsize
  have htiles := htrail.tiles (fun k hk ↦ (ht k hk).anchored src)
    (fun k hk ↦ (hs k hk).anchored src)
  have htext : String.join (pieces.map (·.token.text src)) = String.ofList src.toList := by
    rw [← htiles.join_text, List.map_map]
    rfl
  refine ⟨pieces, htrail, rfl, htiles, ?_, htext, ?_, ?_⟩
  · intro piece hp
    obtain ⟨place, -, rfl, hadv, -⟩ := hmoves hp
    exact hadv
  · intro piece hp d hd hexact
    obtain ⟨place, hwhole, -, -, hmatch⟩ := hmoves hp
    exact hwhole.text_eq hd hexact hmatch
  · rintro rfl
    have heof : (Range.empty src.size).text src = "" := by
      simp [Range.text, Range.slice, Range.empty]
    rw [List.map_append, String.join_append, htrail.keptTokens_eq, List.map_map]
    simp only [List.map_cons, List.map_nil, Token.text, heof, String.join_cons, String.join_nil]
    rw [String.append_empty, String.append_empty]
    exact htext

def letDeclaration : Declaration := { name := "Let", strategy := .exact, pattern := "let" }

def spaceDeclaration : Declaration := { name := "Space", strategy := .regex, pattern := " +" }

def letKind : Kind := (Session.declare {} letDeclaration {}).1

def spaceKind : Kind := (Session.declare { nextKind := 2 } spaceDeclaration {}).1

theorem scan_lossless_lets :
    (∀ k ∈ [letKind], k.DeclaredWhole) ∧ (∀ k ∈ some spaceKind, k.DeclaredWhole) ∧
    scan ⟨[letKind], by decide⟩ (some spaceKind) #['l', 'e', 't', ' ', ' ', 'l', 'e', 't'] =
      .ok [⟨letKind, ⟨0, 3, by decide⟩⟩, ⟨letKind, ⟨5, 8, by decide⟩⟩, ⟨.eof, .empty 8⟩] ∧
    ∃ pieces : List Piece, Range.Tiles 0 (pieces.map (·.token.range)) 8 ∧
      String.join (pieces.map (·.token.text #['l', 'e', 't', ' ', ' ', 'l', 'e', 't'])) =
        "let  let" := by
  have ht : ∀ k ∈ [letKind], k.DeclaredWhole := by
    intro k hk
    obtain rfl := List.mem_singleton.mp hk
    exact ⟨_, "Let", { exact := some "let" }, letDeclaration, {}, Overrides.narrows_empty, by decide,
      rfl, rfl⟩
  have hs : ∀ k ∈ some spaceKind, k.DeclaredWhole := by
    rintro k ⟨⟩
    exact ⟨_, "Space", { regex := some " +" }, spaceDeclaration, {}, Overrides.narrows_empty, by decide,
      rfl, rfl⟩
  have hscan : scan ⟨[letKind], by decide⟩ (some spaceKind)
      #['l', 'e', 't', ' ', ' ', 'l', 'e', 't'] =
      .ok [⟨letKind, ⟨0, 3, by decide⟩⟩, ⟨letKind, ⟨5, 8, by decide⟩⟩, ⟨.eof, .empty 8⟩] := by
    cbv
  obtain ⟨pieces, -, -, htiles, -, htext, -⟩ := scan_lossless _ _ _ _ ht hs hscan
  exact ⟨ht, hs, hscan, pieces, htiles, htext⟩

end Tokenry.Table
