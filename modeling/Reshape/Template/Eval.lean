import Reshape.Filter.Registry
import Reshape.Template.Expr

namespace Reshape.Template

structure Context where
  field : String
  registry : Filter.Registry
  /-- Whether null counts as no value where a fall-back stands. -/
  nullFallsBack : Bool := false

namespace Context

def applyFilter (ctx : Context) (name : String) (arguments : List Json) (value : Json) :
    Except Error Json :=
  match ctx.registry.get name with
  | .error error => .error (.build (error.forField ctx.field))
  | .ok filter => (filter value arguments).mapError (.filterFailed ctx.field name)

/-- Whether a value makes its fall-back take effect. -/
def needsFallback (ctx : Context) : Option Json → Bool
  | none => true
  | some .null => ctx.nullFallsBack
  | some _ => false

end Context

namespace Expr

mutual

/-- A path that leads nowhere has no value. Filters pass that on, so that a fall-back behind them
still takes effect. -/
def evaluate (ctx : Context) (c : Container) : Expr → Except Error (Option Json)
  | .literal value => .ok (some value)
  | .path p => .ok (p.resolve c)
  | .concat parts => (renderParts ctx c parts).map fun cs => some (.string (String.ofList cs))
  | .filter inner name arguments => match evaluate ctx c inner with
    | .ok (some value) => (ctx.applyFilter name arguments value).map some
    | .ok none => .ok none
    | .error error => .error error
  | .fallback inner other => match evaluate ctx c inner with
    | .ok value => if ctx.needsFallback value then evaluate ctx c other else .ok value
    | .error error => .error error

/-- The texts of the parts one behind another; a part without a value gives none. -/
def renderParts (ctx : Context) (c : Container) : List Expr → Except Error (List Char)
  | [] => .ok []
  | part :: parts => match evaluate ctx c part with
    | .error error => .error error
    | .ok value =>
      (renderParts ctx c parts).map ((value.map Filter.rendered).getD [] ++ ·)

end

end Expr

end Reshape.Template
