import ApiBindings.Text.CharTable

/-!
# Upper case

The full upper-case mapping of Unicode 14, which may make several characters of one: `ß` becomes
`SS`, `ŉ` becomes `ʼN`.
-/

namespace ApiBindings.Text

/-- What upper case makes of the characters from U+0080 on. -/
def upperTable : CharTable := .ofText
  "b5=39c df=53,53 e0-f6+c0 f8-fe+d8 ff=178 101=100 103=102 105=104 107=106 109=108 10b=10a 10d=10c
   10f=10e 111=110 113=112 115=114 117=116 119=118 11b=11a 11d=11c 11f=11e 121=120 123=122 125=124
   127=126 129=128 12b=12a 12d=12c 12f=12e 131=49 133=132 135=134 137=136 13a=139 13c=13b 13e=13d
   140=13f 142=141 144=143 146=145 148=147 149=2bc,4e 14b=14a 14d=14c 14f=14e 151=150 153=152
   155=154 157=156 159=158 15b=15a 15d=15c 15f=15e 161=160 163=162 165=164 167=166 169=168 16b=16a
   16d=16c 16f=16e 171=170 173=172 175=174 177=176 17a=179 17c=17b 17e=17d 17f=53 180=243 183=182
   185=184 188=187 18c=18b 192=191 195=1f6 199=198 19a=23d 19e=220 1a1=1a0 1a3=1a2 1a5=1a4 1a8=1a7
   1ad=1ac 1b0=1af 1b4=1b3 1b6=1b5 1b9=1b8 1bd=1bc 1bf=1f7 1c5-1c6=1c4 1c8-1c9=1c7 1cb-1cc=1ca
   1ce=1cd 1d0=1cf 1d2=1d1 1d4=1d3 1d6=1d5 1d8=1d7 1da=1d9 1dc=1db 1dd=18e 1df=1de 1e1=1e0 1e3=1e2
   1e5=1e4 1e7=1e6 1e9=1e8 1eb=1ea 1ed=1ec 1ef=1ee 1f0=4a,30c 1f2-1f3=1f1 1f5=1f4 1f9=1f8 1fb=1fa
   1fd=1fc 1ff=1fe 201=200 203=202 205=204 207=206 209=208 20b=20a 20d=20c 20f=20e 211=210 213=212
   215=214 217=216 219=218 21b=21a 21d=21c 21f=21e 223=222 225=224 227=226 229=228 22b=22a 22d=22c
   22f=22e 231=230 233=232 23c=23b 23f-240+2c7e 242=241 247=246 249=248 24b=24a 24d=24c 24f=24e
   250=2c6f 251=2c6d 252=2c70 253=181 254=186 256-257+189 259=18f 25b=190 25c=a7ab 260=193 261=a7ac
   263=194 265=a78d 266=a7aa 268=197 269=196 26a=a7ae 26b=2c62 26c=a7ad 26f=19c 271=2c6e 272=19d
   275=19f 27d=2c64 280=1a6 282=a7c5 283=1a9 287=a7b1 288=1ae 289=244 28a-28b+1b1 28c=245 292=1b7
   29d=a7b2 29e=a7b0 345=399 371=370 373=372 377=376 37b-37d+3fd 390=399,308,301 3ac=386
   3ad-3af+388 3b0=3a5,308,301 3b1-3c1+391 3c2-3c3=3a3 3c4-3cb+3a4 3cc=38c 3cd-3ce+38e 3d0=392
   3d1=398 3d5=3a6 3d6=3a0 3d7=3cf 3d9=3d8 3db=3da 3dd=3dc 3df=3de 3e1=3e0 3e3=3e2 3e5=3e4 3e7=3e6
   3e9=3e8 3eb=3ea 3ed=3ec 3ef=3ee 3f0=39a 3f1=3a1 3f2=3f9 3f3=37f 3f5=395 3f8=3f7 3fb=3fa
   430-44f+410 450-45f+400 461=460 463=462 465=464 467=466 469=468 46b=46a 46d=46c 46f=46e 471=470
   473=472 475=474 477=476 479=478 47b=47a 47d=47c 47f=47e 481=480 48b=48a 48d=48c 48f=48e 491=490
   493=492 495=494 497=496 499=498 49b=49a 49d=49c 49f=49e 4a1=4a0 4a3=4a2 4a5=4a4 4a7=4a6 4a9=4a8
   4ab=4aa 4ad=4ac 4af=4ae 4b1=4b0 4b3=4b2 4b5=4b4 4b7=4b6 4b9=4b8 4bb=4ba 4bd=4bc 4bf=4be 4c2=4c1
   4c4=4c3 4c6=4c5 4c8=4c7 4ca=4c9 4cc=4cb 4ce=4cd 4cf=4c0 4d1=4d0 4d3=4d2 4d5=4d4 4d7=4d6 4d9=4d8
   4db=4da 4dd=4dc 4df=4de 4e1=4e0 4e3=4e2 4e5=4e4 4e7=4e6 4e9=4e8 4eb=4ea 4ed=4ec 4ef=4ee 4f1=4f0
   4f3=4f2 4f5=4f4 4f7=4f6 4f9=4f8 4fb=4fa 4fd=4fc 4ff=4fe 501=500 503=502 505=504 507=506 509=508
   50b=50a 50d=50c 50f=50e 511=510 513=512 515=514 517=516 519=518 51b=51a 51d=51c 51f=51e 521=520
   523=522 525=524 527=526 529=528 52b=52a 52d=52c 52f=52e 561-586+531 587=535,552 10d0-10fa+1c90
   10fd-10ff+1cbd 13f8-13fd+13f0 1c80=412 1c81=414 1c82=41e 1c83-1c84+421 1c85=422 1c86=42a
   1c87=462 1c88=a64a 1d79=a77d 1d7d=2c63 1d8e=a7c6 1e01=1e00 1e03=1e02 1e05=1e04 1e07=1e06
   1e09=1e08 1e0b=1e0a 1e0d=1e0c 1e0f=1e0e 1e11=1e10 1e13=1e12 1e15=1e14 1e17=1e16 1e19=1e18
   1e1b=1e1a 1e1d=1e1c 1e1f=1e1e 1e21=1e20 1e23=1e22 1e25=1e24 1e27=1e26 1e29=1e28 1e2b=1e2a
   1e2d=1e2c 1e2f=1e2e 1e31=1e30 1e33=1e32 1e35=1e34 1e37=1e36 1e39=1e38 1e3b=1e3a 1e3d=1e3c
   1e3f=1e3e 1e41=1e40 1e43=1e42 1e45=1e44 1e47=1e46 1e49=1e48 1e4b=1e4a 1e4d=1e4c 1e4f=1e4e
   1e51=1e50 1e53=1e52 1e55=1e54 1e57=1e56 1e59=1e58 1e5b=1e5a 1e5d=1e5c 1e5f=1e5e 1e61=1e60
   1e63=1e62 1e65=1e64 1e67=1e66 1e69=1e68 1e6b=1e6a 1e6d=1e6c 1e6f=1e6e 1e71=1e70 1e73=1e72
   1e75=1e74 1e77=1e76 1e79=1e78 1e7b=1e7a 1e7d=1e7c 1e7f=1e7e 1e81=1e80 1e83=1e82 1e85=1e84
   1e87=1e86 1e89=1e88 1e8b=1e8a 1e8d=1e8c 1e8f=1e8e 1e91=1e90 1e93=1e92 1e95=1e94 1e96=48,331
   1e97=54,308 1e98=57,30a 1e99=59,30a 1e9a=41,2be 1e9b=1e60 1ea1=1ea0 1ea3=1ea2 1ea5=1ea4
   1ea7=1ea6 1ea9=1ea8 1eab=1eaa 1ead=1eac 1eaf=1eae 1eb1=1eb0 1eb3=1eb2 1eb5=1eb4 1eb7=1eb6
   1eb9=1eb8 1ebb=1eba 1ebd=1ebc 1ebf=1ebe 1ec1=1ec0 1ec3=1ec2 1ec5=1ec4 1ec7=1ec6 1ec9=1ec8
   1ecb=1eca 1ecd=1ecc 1ecf=1ece 1ed1=1ed0 1ed3=1ed2 1ed5=1ed4 1ed7=1ed6 1ed9=1ed8 1edb=1eda
   1edd=1edc 1edf=1ede 1ee1=1ee0 1ee3=1ee2 1ee5=1ee4 1ee7=1ee6 1ee9=1ee8 1eeb=1eea 1eed=1eec
   1eef=1eee 1ef1=1ef0 1ef3=1ef2 1ef5=1ef4 1ef7=1ef6 1ef9=1ef8 1efb=1efa 1efd=1efc 1eff=1efe
   1f00-1f07+1f08 1f10-1f15+1f18 1f20-1f27+1f28 1f30-1f37+1f38 1f40-1f45+1f48 1f50=3a5,313
   1f51=1f59 1f52=3a5,313,300 1f53=1f5b 1f54=3a5,313,301 1f55=1f5d 1f56=3a5,313,342 1f57=1f5f
   1f60-1f67+1f68 1f70-1f71+1fba 1f72-1f75+1fc8 1f76-1f77+1fda 1f78-1f79+1ff8 1f7a-1f7b+1fea
   1f7c-1f7d+1ffa 1f80=1f08,399 1f81=1f09,399 1f82=1f0a,399 1f83=1f0b,399 1f84=1f0c,399
   1f85=1f0d,399 1f86=1f0e,399 1f87=1f0f,399 1f88=1f08,399 1f89=1f09,399 1f8a=1f0a,399
   1f8b=1f0b,399 1f8c=1f0c,399 1f8d=1f0d,399 1f8e=1f0e,399 1f8f=1f0f,399 1f90=1f28,399
   1f91=1f29,399 1f92=1f2a,399 1f93=1f2b,399 1f94=1f2c,399 1f95=1f2d,399 1f96=1f2e,399
   1f97=1f2f,399 1f98=1f28,399 1f99=1f29,399 1f9a=1f2a,399 1f9b=1f2b,399 1f9c=1f2c,399
   1f9d=1f2d,399 1f9e=1f2e,399 1f9f=1f2f,399 1fa0=1f68,399 1fa1=1f69,399 1fa2=1f6a,399
   1fa3=1f6b,399 1fa4=1f6c,399 1fa5=1f6d,399 1fa6=1f6e,399 1fa7=1f6f,399 1fa8=1f68,399
   1fa9=1f69,399 1faa=1f6a,399 1fab=1f6b,399 1fac=1f6c,399 1fad=1f6d,399 1fae=1f6e,399
   1faf=1f6f,399 1fb0-1fb1+1fb8 1fb2=1fba,399 1fb3=391,399 1fb4=386,399 1fb6=391,342
   1fb7=391,342,399 1fbc=391,399 1fbe=399 1fc2=1fca,399 1fc3=397,399 1fc4=389,399 1fc6=397,342
   1fc7=397,342,399 1fcc=397,399 1fd0-1fd1+1fd8 1fd2=399,308,300 1fd3=399,308,301 1fd6=399,342
   1fd7=399,308,342 1fe0-1fe1+1fe8 1fe2=3a5,308,300 1fe3=3a5,308,301 1fe4=3a1,313 1fe5=1fec
   1fe6=3a5,342 1fe7=3a5,308,342 1ff2=1ffa,399 1ff3=3a9,399 1ff4=38f,399 1ff6=3a9,342
   1ff7=3a9,342,399 1ffc=3a9,399 214e=2132 2170-217f+2160 2184=2183 24d0-24e9+24b6 2c30-2c5f+2c00
   2c61=2c60 2c65=23a 2c66=23e 2c68=2c67 2c6a=2c69 2c6c=2c6b 2c73=2c72 2c76=2c75 2c81=2c80
   2c83=2c82 2c85=2c84 2c87=2c86 2c89=2c88 2c8b=2c8a 2c8d=2c8c 2c8f=2c8e 2c91=2c90 2c93=2c92
   2c95=2c94 2c97=2c96 2c99=2c98 2c9b=2c9a 2c9d=2c9c 2c9f=2c9e 2ca1=2ca0 2ca3=2ca2 2ca5=2ca4
   2ca7=2ca6 2ca9=2ca8 2cab=2caa 2cad=2cac 2caf=2cae 2cb1=2cb0 2cb3=2cb2 2cb5=2cb4 2cb7=2cb6
   2cb9=2cb8 2cbb=2cba 2cbd=2cbc 2cbf=2cbe 2cc1=2cc0 2cc3=2cc2 2cc5=2cc4 2cc7=2cc6 2cc9=2cc8
   2ccb=2cca 2ccd=2ccc 2ccf=2cce 2cd1=2cd0 2cd3=2cd2 2cd5=2cd4 2cd7=2cd6 2cd9=2cd8 2cdb=2cda
   2cdd=2cdc 2cdf=2cde 2ce1=2ce0 2ce3=2ce2 2cec=2ceb 2cee=2ced 2cf3=2cf2 2d00-2d25+10a0 2d27=10c7
   2d2d=10cd a641=a640 a643=a642 a645=a644 a647=a646 a649=a648 a64b=a64a a64d=a64c a64f=a64e
   a651=a650 a653=a652 a655=a654 a657=a656 a659=a658 a65b=a65a a65d=a65c a65f=a65e a661=a660
   a663=a662 a665=a664 a667=a666 a669=a668 a66b=a66a a66d=a66c a681=a680 a683=a682 a685=a684
   a687=a686 a689=a688 a68b=a68a a68d=a68c a68f=a68e a691=a690 a693=a692 a695=a694 a697=a696
   a699=a698 a69b=a69a a723=a722 a725=a724 a727=a726 a729=a728 a72b=a72a a72d=a72c a72f=a72e
   a733=a732 a735=a734 a737=a736 a739=a738 a73b=a73a a73d=a73c a73f=a73e a741=a740 a743=a742
   a745=a744 a747=a746 a749=a748 a74b=a74a a74d=a74c a74f=a74e a751=a750 a753=a752 a755=a754
   a757=a756 a759=a758 a75b=a75a a75d=a75c a75f=a75e a761=a760 a763=a762 a765=a764 a767=a766
   a769=a768 a76b=a76a a76d=a76c a76f=a76e a77a=a779 a77c=a77b a77f=a77e a781=a780 a783=a782
   a785=a784 a787=a786 a78c=a78b a791=a790 a793=a792 a794=a7c4 a797=a796 a799=a798 a79b=a79a
   a79d=a79c a79f=a79e a7a1=a7a0 a7a3=a7a2 a7a5=a7a4 a7a7=a7a6 a7a9=a7a8 a7b5=a7b4 a7b7=a7b6
   a7b9=a7b8 a7bb=a7ba a7bd=a7bc a7bf=a7be a7c1=a7c0 a7c3=a7c2 a7c8=a7c7 a7ca=a7c9 a7d1=a7d0
   a7d7=a7d6 a7d9=a7d8 a7f6=a7f5 ab53=a7b3 ab70-abbf+13a0 fb00=46,46 fb01=46,49 fb02=46,4c
   fb03=46,46,49 fb04=46,46,4c fb05-fb06=53,54 fb13=544,546 fb14=544,535 fb15=544,53b fb16=54e,546
   fb17=544,53d ff41-ff5a+ff21 10428-1044f+10400 104d8-104fb+104b0 10597-105a1+10570
   105a3-105b1+1057c 105b3-105b9+1058c 105bb-105bc+10594 10cc0-10cf2+10c80 118c0-118df+118a0
   16e60-16e7f+16e40 1e922-1e943+1e900"

def upperChar (c : Char) : List Char :=
  if c.toNat < 0x80 then [c.toUpper] else upperTable.image c

def upper (s : String) : String := String.ofList (s.toList.flatMap upperChar)

/-- The first character in upper case, the others unchanged. -/
def capitalize (s : List Char) : List Char :=
  match s with
  | [] => []
  | c :: rest => upperChar c ++ rest

theorem upperChar_ascii {c : Char} (h : c.toNat < 0x80) : upperChar c = [c.toUpper] := by
  simp [upperChar, h]

end ApiBindings.Text
