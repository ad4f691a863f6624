import FinanceApp.Persistence.Store

/-!
# Finance assets

The one kind of object that the app keeps in a persistence store.
-/

namespace FinanceApp

structure ATCFinanceAsset where
  title : String
  ticker : String
  priceChange : String
  isPositive : Bool
  price : String
  color : String
  logoURL : String
  deriving DecidableEq, Repr

namespace ATCFinanceAsset

def encode (asset : ATCFinanceAsset) : KeyedArchive :=
  [("title", .string asset.title),
    ("ticker", .string asset.ticker),
    ("priceChange", .string asset.priceChange),
    ("isPositive", .bool asset.isPositive),
    ("price", .string asset.price),
    ("color", .string asset.color),
    ("logoURL", .string asset.logoURL)]

def initCoder (aDecoder : KeyedArchive) : Option ATCFinanceAsset := do
  let title ← aDecoder.decodeString "title"
  let ticker ← aDecoder.decodeString "ticker"
  let priceChange ← aDecoder.decodeString "priceChange"
  let isPositive := aDecoder.decodeBool "isPositive"
  let price ← aDecoder.decodeString "price"
  let color ← aDecoder.decodeString "color"
  let logoURL ← aDecoder.decodeString "logoURL"
  return { title, ticker, priceChange, isPositive, price, color, logoURL }

theorem initCoder_encode (asset : ATCFinanceAsset) : initCoder asset.encode = some asset := rfl

instance : ATCPersistable ATCFinanceAsset where
  diffIdentifier asset := asset.ticker
  encode := encode
  initCoder := initCoder
  initCoder_encode := initCoder_encode

end ATCFinanceAsset

end FinanceApp
