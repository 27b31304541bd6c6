import CardGrove.Proofs.Game.Doubles
import CardGrove.Proofs.Reading.Gives
import CardGrove.Service

/-! Players from requests. All coordinates in a request are read as doubles, so arithmetic never
fails for the players that are read from one. -/
namespace CardGrove

theorem Box.allDouble_complete {x1 y1 x2 y2 : Scalar} {cx cy w h : Option Scalar}
    (hx1 : x1.isDouble) (hy1 : y1.isDouble) (hx2 : x2.isDouble) (hy2 : y2.isDouble)
    (hcx : ∀ a ∈ cx, a.isDouble) (hcy : ∀ a ∈ cy, a.isDouble) (hw : ∀ a ∈ w, a.isDouble)
    (hh : ∀ a ∈ h, a.isDouble) : (Box.complete x1 y1 x2 y2 cx cy w h).AllDouble := by
  have hgetD {o : Option Scalar} {a : Scalar} (ho : ∀ b ∈ o, b.isDouble) (ha : a.isDouble) :
      (o.getD a).isDouble := by
    cases o with
    | none => exact ha
    | some b => exact ho b rfl
  exact ⟨hx1, hy1, hx2, hy2, hgetD hcx (Scalar.isDouble_add rfl),
    hgetD hcy (Scalar.isDouble_add rfl), hgetD hw (Scalar.isDouble_sub hx1),
    hgetD hh (Scalar.isDouble_sub hy1)⟩

namespace Service

open Checked (Gives)

theorem gives_scalar (v : Json) : Gives (fun a => a.isDouble) (scalar v) := by
  cases v with
  | float x =>
    refine Checked.gives_ok ?_
    rw [Scalar.written]
    split <;> rfl
  | _ => exact (Checked.gives_true _).map fun x _ => rfl

theorem gives_readCard (v : Json) : Gives (fun c => c.box.AllDouble) (readCard v) := by
  refine Json.gives_object (H := fun _ => True) (fun v _ => ?_) trivial
  have hcorner (key : Text) : Gives (fun a => a.isDouble) (Json.required key scalar v) :=
    Json.gives_required Json.hereditary_true (fun v _ => gives_scalar v) trivial key
  have hnullable (v : Json) (_ : True) : Gives (fun o => ∀ a ∈ o, a.isDouble)
      (Json.nullable scalar v) :=
    Json.gives_nullable (H := fun _ => True) (fun v _ => gives_scalar v) trivial
  have hgiven (keys : List Text) : Gives (fun o => ∀ a ∈ o, a.isDouble)
      (Json.firstOf keys none (Json.nullable scalar) v) :=
    Json.gives_firstOf Json.hereditary_true hnullable trivial (by simp) keys
  refine (((((((((Checked.Gives.map (Checked.gives_true _) ?_).seq (Checked.gives_true _)).seq
    (hcorner _)).seq (hcorner _)).seq (hcorner _)).seq (hcorner _)).seq (hgiven _)).seq
    (hgiven _)).seq (hgiven _)).seq (hgiven _)
  intro label _ similarity _ x1 hx1 y1 hy1 x2 hx2 y2 hy2 cx hcx cy hcy w hw h hh
  exact Box.allDouble_complete hx1 hy1 hx2 hy2 hcx hcy hw hh

theorem gives_readPlayer (v : Json) : Gives Player.AllDouble (readPlayer v) := by
  refine Json.gives_object (H := fun _ => True) (fun v _ => ?_) trivial
  have hcards : Gives (fun cards => ∀ c ∈ cards, c.box.AllDouble)
      (Json.firstOf ["cards"] [] (Json.list readCard) v) :=
    Json.gives_firstOf Json.hereditary_true
      (fun v hv => Json.gives_list Json.hereditary_true (fun v _ => gives_readCard v) hv) trivial
      (List.forall_mem_nil _) _
  exact (Checked.Gives.map (Checked.gives_true _) fun name _ cards hcards => hcards).seq hcards

theorem gives_readBody (body : Body) :
    Gives (fun players => ∀ p ∈ players, Player.AllDouble p) (readBody body) := by
  cases body with
  | document v =>
    refine Checked.gives_below (Json.gives_object (H := fun _ => True) (fun v _ => ?_) trivial) _
    have hlist (v : Json) (hv : True) : Gives (fun players => ∀ p ∈ players, Player.AllDouble p)
        (Json.list readPlayer v) :=
      Json.gives_list Json.hereditary_true (fun v _ => gives_readPlayer v) hv
    exact Json.gives_required Json.hereditary_true hlist trivial _
  | _ => exact Checked.gives_below (Checked.gives_refuse _ _) _

end Service
end CardGrove
