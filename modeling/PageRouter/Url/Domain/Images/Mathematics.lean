import PageRouter.Url.Domain.ImageRow

namespace PageRouter.Url

/-- What the letters and digits of mathematics are written as in domains. -/
def mathematicsRows : List ImageRow := [
  ⟨0x1D400, "a b c d e f g h i j k l m n o p q r s t u v w x y z a b c d e f g h i j k l m n o p"⟩,
  ⟨0x1D42A, "q r s t u v w x y z a b c d e f g h i j k l m n o p q r s t u v w x y z a b c d e f"⟩,
  ⟨0x1D454, "g  i j k l m n o p q r s t u v w x y z a b c d e f g h i j k l m n o p q r s t u v"⟩,
  ⟨0x1D47E, "w x y z a b c d e f g h i j k l m n o p q r s t u v w x y z a  c d   g   j k   n o"⟩,
  ⟨0x1D4AB, "p q  s t u v w x y z a b c d  f  h i j k l m n  p q r s t u v w x y z a b c d e f g"⟩,
  ⟨0x1D4D7, "h i j k l m n o p q r s t u v w x y z a b c d e f g h i j k l m n o p q r s t u v w"⟩,
  ⟨0x1D501, "x y z a b  d e f g   j k l m n o p q  s t u v w x y  a b c d e f g h i j k l m n o"⟩,
  ⟨0x1D52D, "p q r s t u v w x y z a b  d e f g  i j k l m  o    s t u v w x y  a b c d e f g h"⟩,
  ⟨0x1D55A, "i j k l m n o p q r s t u v w x y z a b c d e f g h i j k l m n o p q r s t u v w x"⟩,
  ⟨0x1D584, "y z a b c d e f g h i j k l m n o p q r s t u v w x y z a b c d e f g h i j k l m n"⟩,
  ⟨0x1D5AE, "o p q r s t u v w x y z a b c d e f g h i j k l m n o p q r s t u v w x y z a b c d"⟩,
  ⟨0x1D5D8, "e f g h i j k l m n o p q r s t u v w x y z a b c d e f g h i j k l m n o p q r s t"⟩,
  ⟨0x1D602, "u v w x y z a b c d e f g h i j k l m n o p q r s t u v w x y z a b c d e f g h i j"⟩,
  ⟨0x1D62C, "k l m n o p q r s t u v w x y z a b c d e f g h i j k l m n o p q r s t u v w x y z"⟩,
  ⟨0x1D656, "a b c d e f g h i j k l m n o p q r s t u v w x y z a b c d e f g h i j k l m n o p"⟩,
  ⟨0x1D680, "q r s t u v w x y z a b c d e f g h i j k l m n o p q r s t u v w x y z ı ȷ   α β γ"⟩,
  ⟨0x1D6AB, "δ ε ζ η θ ι κ λ μ ν ξ ο π ρ θ σ τ υ φ χ ψ ω ∇ α β γ δ ε ζ η θ ι κ λ μ ν ξ ο π ρ σ σ"⟩,
  ⟨0x1D6D5, "τ υ φ χ ψ ω ∂ ε θ κ φ ρ π α β γ δ ε ζ η θ ι κ λ μ ν ξ ο π ρ θ σ τ υ φ χ ψ ω ∇ α β γ"⟩,
  ⟨0x1D6FF, "δ ε ζ η θ ι κ λ μ ν ξ ο π ρ σ σ τ υ φ χ ψ ω ∂ ε θ κ φ ρ π α β γ δ ε ζ η θ ι κ λ μ ν"⟩,
  ⟨0x1D729, "ξ ο π ρ θ σ τ υ φ χ ψ ω ∇ α β γ δ ε ζ η θ ι κ λ μ ν ξ ο π ρ σ σ τ υ φ χ ψ ω ∂ ε θ κ"⟩,
  ⟨0x1D753, "φ ρ π α β γ δ ε ζ η θ ι κ λ μ ν ξ ο π ρ θ σ τ υ φ χ ψ ω ∇ α β γ δ ε ζ η θ ι κ λ μ ν"⟩,
  ⟨0x1D77D, "ξ ο π ρ σ σ τ υ φ χ ψ ω ∂ ε θ κ φ ρ π α β γ δ ε ζ η θ ι κ λ μ ν ξ ο π ρ θ σ τ υ φ χ"⟩,
  ⟨0x1D7A7, "ψ ω ∇ α β γ δ ε ζ η θ ι κ λ μ ν ξ ο π ρ σ σ τ υ φ χ ψ ω ∂ ε θ κ φ ρ π ϝ ϝ   0 1 2 3"⟩,
  ⟨0x1D7D2, "4 5 6 7 8 9 0 1 2 3 4 5 6 7 8 9 0 1 2 3 4 5 6 7 8 9 0 1 2 3 4 5 6 7 8 9 0 1 2 3 4 5"⟩,
  ⟨0x1D7FC, "6 7 8 9"⟩]

end PageRouter.Url
