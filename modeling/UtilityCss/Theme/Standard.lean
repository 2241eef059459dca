import UtilityCss.Theme.Layer

namespace UtilityCss

def standardScreens : List (String × Int) :=
  [("sm", 640), ("md", 768), ("lg", 1024), ("xl", 1280), ("2xl", 1536)]

def Layer.standard : Layer where
  spacing := ⟨[
    ("0", "0px"), ("px", "1px"), ("0.5", "0.125rem"), ("1", "0.25rem"), ("1.5", "0.375rem"),
    ("2", "0.5rem"), ("2.5", "0.625rem"), ("3", "0.75rem"), ("3.5", "0.875rem"), ("4", "1rem"),
    ("5", "1.25rem"), ("6", "1.5rem"), ("7", "1.75rem"), ("8", "2rem"), ("9", "2.25rem"),
    ("10", "2.5rem"), ("11", "2.75rem"), ("12", "3rem"), ("14", "3.5rem"), ("16", "4rem"),
    ("20", "5rem"), ("24", "6rem"), ("28", "7rem"), ("32", "8rem"), ("36", "9rem"), ("40", "10rem"),
    ("44", "11rem"), ("48", "12rem"), ("52", "13rem"), ("56", "14rem"), ("60", "15rem"),
    ("64", "16rem"), ("72", "18rem"), ("80", "20rem"), ("96", "24rem")]⟩
  colors := ⟨[
    ("black", "#000000"), ("white", "#ffffff"), ("slate-100", "#f1f5f9"), ("slate-500", "#64748b"),
    ("slate-900", "#0f172a"), ("gray-100", "#f3f4f6"), ("gray-200", "#e5e7eb"),
    ("gray-500", "#6b7280"), ("gray-700", "#374151"), ("gray-800", "#1f2937"), ("gray-900", "#111827"),
    ("red-500", "#ef4444"), ("red-600", "#dc2626"), ("green-500", "#22c55e"), ("green-600", "#16a34a"),
    ("blue-500", "#3b82f6"), ("blue-600", "#2563eb"), ("blue-700", "#1d4ed8")]⟩
  fontSize := ⟨[
    ("xs", "0.75rem"), ("sm", "0.875rem"), ("base", "1rem"), ("lg", "1.125rem"), ("xl", "1.25rem"),
    ("2xl", "1.5rem"), ("3xl", "1.875rem"), ("4xl", "2.25rem"), ("5xl", "3rem"), ("6xl", "3.75rem"),
    ("7xl", "4.5rem"), ("8xl", "6rem"), ("9xl", "8rem")]⟩
  lineHeight := ⟨[
    ("none", "1"), ("tight", "1.25"), ("snug", "1.375"), ("normal", "1.5"), ("relaxed", "1.625"),
    ("loose", "2")]⟩
  radius := ⟨[
    ("none", "0px"), ("sm", "0.125rem"), ("DEFAULT", "0.25rem"), ("md", "0.375rem"), ("lg", "0.5rem"),
    ("xl", "0.75rem"), ("2xl", "1rem"), ("3xl", "1.5rem"), ("full", "9999px")]⟩
  screens := ⟨standardScreens.map fun screen => (screen.1, toString screen.2 ++ "px")⟩

end UtilityCss
